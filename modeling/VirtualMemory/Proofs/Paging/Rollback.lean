import VirtualMemory.Proofs.Paging.Contents
import Mathlib.Data.Set.Card
import Mathlib.Order.Interval.Finset.Nat

/-!
# Range mappings that fail

If a page of a range cannot be mapped, the pages of the range that were mapped before it are
unmapped again, and by then some of them may have been evicted.  What is left is a state with
the same pages, of which some may be in slots that were in frames, with the same contents; and
since every frame and every slot has one holder, as many of them are free as before.
-/

namespace VirtualMemory

open MemoryBacked

/-! ### The number of free frames -/

section Count

variable {κ : Type} {out : Set Place} {f f' : κ → Option Place} {size : Nat} {m m' : Memories}

/-- A list without duplicates has as many elements as its set. -/
theorem ncard_setOf_mem {α : Type} [DecidableEq α] {l : List α} (nodup : l.Nodup) :
  Set.ncard {a | a ∈ l} = l.length
  := by
  rw [← List.toFinset_card_of_nodup nodup, ← Set.ncard_coe_finset, List.coe_toFinset]

theorem Memories.finite_isFrame :
  Set.Finite {x | m.IsFrame x}
  := by
  apply Set.Finite.subset
    (((Set.finite_Iio (m .ram).frameCount).image (Prod.mk Device.ram)).union
      ((Set.finite_Iio (m .swap).frameCount).image (Prod.mk Device.swap)))
  rintro ⟨device, n⟩ ⟨-, lt⟩
  cases device with
  | ram => exact Or.inl ⟨n, lt, rfl⟩
  | swap => exact Or.inr ⟨n, lt, rfl⟩

/-- The number of free frames and slots. -/
def Memories.freeCount (m : Memories) : Nat := (m .ram).free.length + (m .swap).free.length

theorem Custody.ncard_free (h : Custody out f size m) :
  Set.ncard {x : Place | x.2 ∈ (m x.1).free} = m.freeCount
  := by
  have split : {x : Place | x.2 ∈ (m x.1).free} =
      Prod.mk Device.ram '' {n | n ∈ (m .ram).free} ∪
        Prod.mk Device.swap '' {n | n ∈ (m .swap).free}
    := by
    ext ⟨device, n⟩
    cases device with
    | ram => simp
    | swap => simp
  have apart : Disjoint (Prod.mk Device.ram '' {n | n ∈ (m .ram).free})
      (Prod.mk Device.swap '' {n | n ∈ (m .swap).free})
    := by
    rw [Set.disjoint_left]
    rintro _ ⟨n, -, rfl⟩ ⟨n', -, eq⟩
    cases eq
  have finite (device : Device) : Set.Finite (Prod.mk device '' {n | n ∈ (m device).free})
    := (List.finite_toSet _).image _
  have injective (device : Device) : Function.Injective (Prod.mk (β := Nat) device)
    := fun _ _ eq => congrArg Prod.snd eq
  rw [split, Set.ncard_union_eq apart (finite .ram) (finite .swap),
    Set.ncard_image_of_injective _ (injective .ram),
    Set.ncard_image_of_injective _ (injective .swap),
    ncard_setOf_mem (h.nodup .ram), ncard_setOf_mem (h.nodup .swap), Memories.freeCount]

/-- As many places are held by pages as there are pages with a place. -/
theorem Custody.ncard_places (h : Custody out f size m) :
  Set.ncard {x | ∃ page, f page = some x} = Set.ncard {page | f page ≠ none}
  := by
  have image : {x | ∃ page, f page = some x} =
      (fun page => (f page).getD (.ram, 0)) '' {page | f page ≠ none}
    := by
    ext x
    constructor
    · rintro ⟨page, place⟩
      use page
      constructor
      · simp [place]
      · simp [place]
    · rintro ⟨page, some, rfl⟩
      obtain ⟨x, place⟩ := Option.ne_none_iff_exists'.mp some
      use page
      simp [place]
  rw [image]
  apply Set.InjOn.ncard_image
  intro page some other some' eq
  obtain ⟨x, place⟩ := Option.ne_none_iff_exists'.mp some
  obtain ⟨y, place'⟩ := Option.ne_none_iff_exists'.mp some'
  simp only [place, place', Option.getD_some] at eq
  subst eq
  apply h.page_eq place place'

/-- Each frame is free, the place of a page, or outside. -/
theorem Custody.freeCount_add (h : Custody out f size m) :
  m.freeCount + Set.ncard {page | f page ≠ none} + out.ncard = Set.ncard {x | m.IsFrame x}
  := by
  have frames : {x | m.IsFrame x} =
      {x : Place | x.2 ∈ (m x.1).free} ∪ {x | ∃ page, f page = some x} ∪ out
    := by
    ext x
    constructor
    · intro frame
      obtain ⟨holder, held⟩ := h.exists_holder x frame
      cases holder with
      | pool => exact Or.inl (Or.inl held)
      | page page => exact Or.inl (Or.inr ⟨page, held⟩)
      | outside => exact Or.inr held
    · rintro ((mem | ⟨page, place⟩) | mem)
      · apply h.isFrame .pool x mem
      · apply h.isFrame (.page page) x place
      · apply h.isFrame .outside x mem
  have finite := m.finite_isFrame
  rw [frames, Set.finite_union, Set.finite_union] at finite
  obtain ⟨⟨finite_pool, finite_pages⟩, finite_out⟩ := finite
  rw [frames, Set.ncard_union_eq _ (finite_pool.union finite_pages) finite_out,
    Set.ncard_union_eq _ finite_pool finite_pages, h.ncard_free, h.ncard_places]
  · rw [Set.disjoint_left]
    rintro x mem ⟨page, place⟩
    apply h.not_free_of_place place mem
  · rw [Set.disjoint_left]
    rintro x (mem | ⟨page, place⟩) mem'
    · apply h.not_free_of_mem mem' mem
    · apply h.not_mem_of_place place mem'

/-- If the same pages have places, and the same places are outside, as many frames are free. -/
theorem Custody.freeCount_eq (h : Custody out f size m) (h' : Custody out f' size m')
    (size_eq : ∀ device, (m' device).size = (m device).size)
    (same : ∀ page, f' page ≠ none ↔ f page ≠ none) :
  m'.freeCount = m.freeCount
  := by
  have frames : {x | m'.IsFrame x} = {x | m.IsFrame x} := by
    ext x
    show m'.IsFrame x ↔ m.IsFrame x
    rw [Memories.IsFrame, Memories.IsFrame, Memory.frameCount, Memory.frameCount, size_eq,
      h.frameSize, h'.frameSize]
  have pages : {page | f' page ≠ none} = {page | f page ≠ none} := Set.ext same
  have count := h.freeCount_add
  have count' := h'.freeCount_add
  rw [frames, pages] at count'
  omega

end Count

namespace Paging

variable {c : Config} {ω : Type} [MemoryBacked ω] {out : Set Place} {stores : Stores}
variable {p p' : Paging c} {s s' : Paging c × ω} {page other first count : Nat} {e : Error}

/-! ### The pages that are mapped -/

/-- A page is mapped exactly if its entry is not empty. -/
theorem Agreement.isPresent_iff (a : p.Agreement) (hp : page < pageLimit) :
  (p.entry page).isPresent = true ↔ p.entry page ≠ .empty
  := by
  constructor
  · intro present empty
    rw [empty] at present
    exact Bool.false_ne_true present
  · intro ne
    apply (a.present page hp ne).1

/-- A page that leaves its frame for a slot is still mapped. -/
theorem SwapsOut.isPresent_eq (h : SwapsOut stores p p') (hp : page < pageLimit) :
  (p'.entry page).isPresent = (p.entry page).isPresent
  := by
  rcases h page hp with eq | ⟨-, resident, swapped⟩
  · rw [eq]
  · obtain ⟨frame, place⟩ := Entry.isResident_iff.mp resident
    obtain ⟨slot, place'⟩ := Entry.isSwapped_iff.mp swapped
    rw [← Entry.isSome_place?, ← Entry.isSome_place?, place, place']
    rfl

/-- A page that cannot be mapped leaves the others mapped as they were; one that can be joins
them. -/
theorem Mapping.isPresent_iff {answer : Except Error Nat} (h : Mapping stores page s answer s')
    (fits : c.maxPages ≤ pageLimit) (below : page < c.maxPages) (a : s.1.Agreement)
    (ho : other < pageLimit) :
  (s'.1.entry other).isPresent = true ↔
    (s.1.entry other).isPresent = true ∨ other = page ∧ ∃ frame, answer = .ok frame
  := by
  cases h with
  | noFrame obtaining => simp [(obtaining.swapsOut fits a).isPresent_eq ho]
  | rejected obtaining unfit => simp [← (obtaining.swapsOut fits a).isPresent_eq ho]
  | uncleared obtaining cleared => simp [← (obtaining.swapsOut fits a).isPresent_eq ho]
  | mapped obtaining fit cleared =>
      have kept := (obtaining.swapsOut fits a).isPresent_eq ho
      rw [Paging.install, entry_enlist, entry_setEntry (lt_of_lt_of_le below fits) ho]
      split
      · next eq => simp [eq, ← Entry.isSome_place?, Entry.place?_resident? fit]
      · next ne => simp [ne, ← kept]

/-- The pages that are unmapped are mapped no more, the others as before. -/
theorem isPresent_withdraw_iff {pages : List Nat} (inside : ∀ page ∈ pages, page < pageLimit)
    (ho : other < pageLimit) :
  ((pages.foldl (withdraw stores) s).1.entry other).isPresent = true ↔
    (s.1.entry other).isPresent = true ∧ other ∉ pages
  := by
  induction pages generalizing s with
  | nil => simp
  | cons page rest ih =>
      have hp := inside page List.mem_cons_self
      have entry_eq : (withdraw stores s page).1.entry other =
          if other = page then .empty else s.1.entry other
        := entry_setEntry hp ho
      rw [List.foldl_cons, ih fun page mem => inside page (List.mem_cons_of_mem _ mem), entry_eq,
        List.mem_cons, not_or]
      split
      · next eq =>
          simp only [eq, not_true_eq_false, false_and, and_false, iff_false]
          rintro ⟨present, -⟩
          exact Bool.false_ne_true present
      · next ne => simp [ne]

/-- After a failure the pages are mapped that were mapped before, but for those that the range
mapping had added.  A page is added only if it was not mapped, so it is the one to take back. -/
theorem Progress.isPresent_iff {mapped : List Nat}
    (h : Progress stores count page mapped s (.error e) s') (fits : c.maxPages ≤ pageLimit)
    (range : page + count ≤ c.maxPages) (inside : ∀ page ∈ mapped, page < pageLimit)
    (a : s.1.Agreement) (ho : other < pageLimit) :
  (s'.1.entry other).isPresent = true ↔ (s.1.entry other).isPresent = true ∧ other ∉ mapped
  := by
  generalize failed : Except.error e = answer at h
  induction h with
  | done => cases failed
  | skipped present rest ih => apply ih (by omega) inside a failed
  | undone absent mapping =>
      rw [isPresent_withdraw_iff inside ho, mapping.isPresent_iff fits (by omega) a ho]
      simp
  | @mapped count page frame mapped s s' s'' answer absent mapping rest ih =>
      have below : page < c.maxPages := by omega
      have absent' := Entry.isResident_eq_false_of_absent absent
      have inside' : ∀ other ∈ mapped ++ [page], other < pageLimit := by
        intro other mem
        rcases List.mem_append.mp mem with mem | mem
        · apply inside other mem
        · rw [List.mem_singleton.mp mem]
          apply lt_of_lt_of_le below fits
      rw [ih (by omega) inside' (mapping.agreement fits below absent' a) failed,
        mapping.isPresent_iff fits below a ho]
      simp only [List.mem_append, List.mem_singleton, not_or, Except.ok.injEq, exists_eq',
        and_true]
      have ne : (s.1.entry other).isPresent = true → other ≠ page := by
        rintro present rfl
        rw [absent] at present
        cases present
      tauto

/-! ### Rollback -/

/-- A state after a range mapping that failed is as before, up to frames and slots: the same pages
are mapped with the same contents, no page of the range that was not mapped is listed as
resident, and as many frames and slots are free. -/
structure RolledBack (first count : Nat) (s s' : Paging c × ω) : Prop where
  mapped : ∀ page, s'.1.entry page ≠ .empty ↔ s.1.entry page ≠ .empty
  content : ∀ page, ∀ offset < c.pageSize,
    content s'.1.places c.pageSize (memory s'.2) page offset =
      content s.1.places c.pageSize (memory s.2) page offset
  unlisted : ∀ page, first ≤ page → page < first + count → s.1.entry page = .empty →
    page ∉ s'.1.residency.pages
  free : (memory s'.2).freeCount = (memory s.2).freeCount

/-- States with the same pages mapped differ in where these pages are only. -/
theorem Guarded.rolledBack (g : Guarded out s) (g' : Guarded out s') (kept : Keeps out s s')
    (fits : c.maxPages ≤ pageLimit)
    (same : ∀ page < pageLimit,
      (s'.1.entry page).isPresent = true ↔ (s.1.entry page).isPresent = true) :
  RolledBack first count s s'
  := by
  have mapped (page : Nat) : s'.1.entry page ≠ .empty ↔ s.1.entry page ≠ .empty := by
    have hp : page % pageLimit < pageLimit := Nat.mod_lt _ (by decide)
    rw [← entry_mod, ← entry_mod (p := s.1), ← g.agreement.isPresent_iff hp,
      ← g'.agreement.isPresent_iff hp, same _ hp]
  use mapped, kept.content
  · intro page _ _ absent listed
    have hp := lt_of_lt_of_le (g'.agreement.below page listed) fits
    have resident := (g'.agreement.mem_iff page hp).mp listed
    have empty : s'.1.entry page = .empty := by
      by_contra ne
      exact (mapped page).mp ne absent
    rw [empty] at resident
    exact Bool.false_ne_true resident
  · apply g.custody.freeCount_eq g'.custody kept.size_eq
    intro page
    by_cases hp : page < pageLimit
    · rw [places_of_lt hp, places_of_lt hp, ne_eq, ne_eq, Entry.place?_eq_none_iff,
        Entry.place?_eq_none_iff, Bool.not_eq_false, Bool.not_eq_false, same page hp]
    · rw [places, places, if_neg hp, if_neg hp]

/-- A range mapping that fails is rolled back. -/
theorem PagesMapping.rolledBack (h : PagesMapping stores first count s (.error e) s')
    (fits : c.maxPages ≤ pageLimit) (g : Guarded out s) :
  RolledBack first count s s'
  := by
  cases h with
  | beyond some above => exact g.rolledBack g Keeps.refl fits fun _ _ => Iff.rfl
  | paged some below mode progress =>
      have range : first + count ≤ c.maxPages := by omega
      obtain ⟨g', kept⟩ := progress.keeps fits range nofun nofun nofun g
      apply g.rolledBack g' kept fits
      intro page hp
      rw [progress.isPresent_iff fits range nofun g.agreement hp]
      simp

end Paging

end VirtualMemory
