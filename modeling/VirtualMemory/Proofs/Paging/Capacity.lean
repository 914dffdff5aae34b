import VirtualMemory.Proofs.Paging.Contents
import VirtualMemory.Proofs.Store.Reliable
import Mathlib.Data.Finset.Card
import Mathlib.Order.Interval.Finset.Nat

/-!
# Faults that cannot fail

On reliable stores, both of which the caller brings, a page can be brought into a frame if a
frame is free, or if a slot is free and some page is resident.  One of the two always holds if
nothing is held outside, the main store has a frame and the swap store has at least as many slots
as there are pages: if no frame is free, then a page is resident, and the other pages do not
take up all slots.  So only pages beyond the limit are refused.
-/

namespace VirtualMemory.Paging

open Backing MemoryBacked

variable {c : Config} {ω : Type} [Reliable ω] {out : Set Place} {stores : Stores}
variable {s s' : Paging c × ω} {page slot start stop : Nat} {answer : Except Error Nat}

/-! ### Enough frames or slots -/

/-- A frame is free, or a slot is free and some page is resident. -/
def Supplied (s : Paging c × ω) : Prop :=
  (memory s.2 .ram).free ≠ [] ∨ ((memory s.2 .swap).free ≠ [] ∧ s.1.residency.pages ≠ [])

/-- Memories of which the addresses are words, the main one with a frame and the swap memory with
a slot for each page. -/
structure Ample (c : Config) (size : Device → Nat) : Prop where
  frames : 2 ≤ Memory.framesIn (size .ram) c.pageSize
  slots : c.maxPages < Memory.framesIn (size .swap) c.pageSize
  words : ∀ device, size device < Word.bound

/-- The sizes of the memories. -/
def sizes (s : Paging c × ω) (device : Device) : Nat := (memory s.2 device).size

theorem Keeps.sizes_eq (h : Keeps out s s') :
  sizes s' = sizes s
  := by
  funext device
  apply h.size_eq

/-- Only pages below the limit have a place. -/
theorem Agreement.lt_maxPages {p : Paging c} (a : p.Agreement) {x : Place}
    (place : p.places page = some x) :
  page < c.maxPages
  := by
  rw [places] at place
  split at place
  · next hp =>
      refine (a.present page hp ?_).2.1
      intro empty
      rw [empty] at place
      cases place
  · cases place

/-- A page with a frame is resident. -/
theorem Agreement.mem_of_place {p : Paging c} (a : p.Agreement) {frame : Nat}
    (place : p.places page = some (.ram, frame)) :
  page ∈ p.residency.pages
  := by
  rw [places] at place
  split at place
  · next hp => apply (a.mem_iff page hp).mpr (Entry.isResident_iff.mpr ⟨frame, place⟩)
  · cases place

/-- The number of the frame or slot in which a page is. -/
def placeNumber (p : Paging c) (page : Nat) : Nat :=
  match p.places page with
  | some x => x.2
  | none => 0

/-- The pages but one do not take up all slots. -/
theorem Guarded.exists_free_slot (g : Guarded ∅ s) (ample : Ample c (sizes s)) {frame : Nat}
    (place : s.1.places page = some (.ram, frame)) :
  (memory s.2 .swap).free ≠ []
  := by
  intro full
  have count : (memory s.2 .swap).frameCount = Memory.framesIn (sizes s .swap) c.pageSize := by
    rw [Memory.frameCount, g.custody.frameSize]
    rfl
  have onto : Set.SurjOn (placeNumber s.1) ((Finset.range c.maxPages).erase page)
      (Finset.Ico 1 (memory s.2 .swap).frameCount)
    := by
    intro slot mem
    obtain ⟨pos, lt⟩ := Finset.mem_Ico.mp mem
    have isFrame : (memory s.2).IsFrame (.swap, slot) := ⟨pos, lt⟩
    obtain ⟨holder, holds⟩ := g.custody.exists_holder _ isFrame
    cases holder with
    | pool =>
        rw [Holds, full] at holds
        cases holds
    | page other =>
        use other
        constructor
        · apply Finset.mem_erase.mpr
          constructor
          · rintro rfl
            have := place.symm.trans holds
            cases this
          · apply Finset.mem_range.mpr (g.agreement.lt_maxPages holds)
        · have place' : s.1.places other = some (.swap, slot) := holds
          rw [placeNumber, place']
    | outside => cases holds
  have le := Finset.card_le_card_of_surjOn _ onto
  have below : page ∈ Finset.range c.maxPages
    := Finset.mem_range.mpr (g.agreement.lt_maxPages place)
  have slots := ample.slots
  have pos := g.agreement.lt_maxPages place
  rw [Finset.card_erase_of_mem below, Finset.card_range, Nat.card_Ico, count] at le
  omega

/-- With ample memories there is always a frame or a slot. -/
theorem Guarded.supplied (g : Guarded ∅ s) (ample : Ample c (sizes s)) :
  Supplied s
  := by
  rcases free : (memory s.2 .ram).free with - | ⟨frame, rest⟩
  · have isFrame : (memory s.2).IsFrame (.ram, 1) := by
      use Nat.le_refl 1
      rw [Memory.frameCount, g.custody.frameSize]
      apply ample.frames
    obtain ⟨holder, holds⟩ := g.custody.exists_holder _ isFrame
    cases holder with
    | pool =>
        rw [Holds, free] at holds
        cases holds
    | page other =>
        right
        use g.exists_free_slot ample holds
        apply List.ne_nil_of_mem (g.agreement.mem_of_place holds)
    | outside => cases holds
  · left
    rw [free]
    apply List.cons_ne_nil

/-! ### Faults -/

section Faults

variable (fits : c.maxPages ≤ pageLimit) (all : ∀ device, stores.has device = true)
variable (words : ∀ device, sizes s device < Word.bound)
include fits all words

theorem Eviction.succeeds (h : Eviction stores s answer s') (g : Guarded out s)
    (room : (memory s.2 .swap).free ≠ []) (some : s.1.residency.pages ≠ []) :
  ∃ frame, answer = .ok frame
  := by
  cases h with
  | noStore missing =>
      rw [show stores.swap = true from all .swap] at missing
      cases missing
  | noSlot brought acquired => exact absurd (exhausted_of_acquireFrame acquired).2 room
  | noVictim brought acquired idle => exact absurd idle some
  | homeless brought acquired oldest home =>
      exact absurd home (g.agreement.frame?_oldest_ne_none fits oldest)
  | @uncopied p w w' w'' slot victim frame rest e brought acquired oldest home copied =>
      obtain ⟨fresh, g', kept⟩ := g.acquire acquired
      have place := g.agreement.place_oldest fits oldest home
      have isFrame := g'.custody.isFrame (.page victim) (.ram, frame) place
      have isFrame' := g'.custody.isFrame .outside (.swap, slot) (Set.mem_insert _ out)
      obtain ⟨w₂, ok⟩ := copyPage_ok isFrame isFrame' g'.custody.frameSize fun device => by
        rw [kept.size_eq]
        apply words
      rw [ok] at copied
      cases copied
  | evicted brought acquired oldest home copied =>
      apply Exists.intro
      rfl

theorem Obtaining.succeeds (h : Obtaining stores s answer s') (g : Guarded out s)
    (supplied : Supplied s) :
  ∃ frame, answer = .ok frame
  := by
  cases h with
  | noStore missing =>
      rw [show stores.ram = true from all .ram] at missing
      cases missing
  | free brought acquired =>
      apply Exists.intro
      rfl
  | refused brought acquired other => exact absurd (exhausted_of_acquireFrame acquired).1 other
  | full brought acquired eviction =>
      have eq := memory_acquireFrame_of_error acquired
      rcases supplied with free | ⟨slot, some⟩
      · exact absurd (exhausted_of_acquireFrame acquired).2 free
      · apply eviction.succeeds fits all _ (g.of_memory eq) _ some
        · intro device
          rw [sizes, eq]
          apply words
        · rw [eq]
          apply slot

theorem Mapping.succeeds (h : Mapping stores page s answer s') (g : Guarded out s)
    (supplied : Supplied s) :
  ∃ frame, answer = .ok frame
  := by
  cases h with
  | noFrame obtaining =>
      obtain ⟨frame, ok⟩ := obtaining.succeeds fits all words g supplied
      cases ok
  | rejected obtaining unfit =>
      obtain ⟨fresh, g', kept⟩ := obtaining.delivers fits g
      exact absurd unfit g'.resident?_ne_none
  | uncleared obtaining cleared =>
      obtain ⟨fresh, g', kept⟩ := obtaining.delivers fits g
      have isFrame := g'.custody.isFrame .outside _ (Set.mem_insert _ out)
      obtain ⟨w₂, ok⟩ := clearFrame_ok isFrame (g'.custody.frameSize .ram) (by
        rw [kept.size_eq]
        apply words)
      rw [ok] at cleared
      cases cleared
  | mapped obtaining fit cleared =>
      apply Exists.intro
      rfl

theorem Return.succeeds (h : Return stores page slot s answer s') (g : Guarded out s)
    (supplied : Supplied s) (below : page < c.maxPages)
    (place : s.1.places page = some (.swap, slot)) :
  ∃ frame, answer = .ok frame
  := by
  have hp : page < pageLimit := lt_of_lt_of_le below fits
  cases h with
  | noStore missing =>
      rw [show stores.swap = true from all .swap] at missing
      cases missing
  | noFrame obtaining =>
      obtain ⟨frame, ok⟩ := obtaining.succeeds fits all words g supplied
      cases ok
  | uncopied brought obtaining copied =>
      obtain ⟨fresh, g', kept⟩ := obtaining.delivers fits g
      have place' := (obtaining.swapsOut fits g.agreement).place_eq hp place
      have isFrame := g'.custody.isFrame (.page page) _ place'
      have isFrame' := g'.custody.isFrame .outside _ (Set.mem_insert _ out)
      obtain ⟨w₂, ok⟩ := copyPage_ok isFrame isFrame' g'.custody.frameSize fun device => by
        rw [kept.size_eq]
        apply words
      rw [ok] at copied
      cases copied
  | rejected brought obtaining copied unfit =>
      obtain ⟨fresh, g', kept⟩ := obtaining.delivers fits g
      exact absurd unfit g'.resident?_ne_none
  | returned brought obtaining copied fit =>
      apply Exists.intro
      rfl

theorem Resolution.succeeds (h : Resolution stores page s answer s') (g : Guarded out s)
    (supplied : Supplied s) (below : page < c.maxPages) :
  ∃ frame, answer = .ok frame
  := by
  cases h with
  | beyond above => exact absurd below (Nat.not_lt_of_le above)
  | identity below' mode =>
      apply Exists.intro
      rfl
  | resident below' mode place =>
      apply Exists.intro
      rfl
  | swapped below' mode place fault =>
      apply fault.succeeds fits all words g supplied below
      rw [places_of_lt (lt_of_lt_of_le below fits), place]
  | unmapped below' mode place fault => apply fault.succeeds fits all words g supplied

end Faults

/-! ### Ranges of addresses -/

/-- What the mapping of a range of addresses answers if no fault fails. -/
def rangeAnswer (c : Config) (start stop : Nat) : Except Error Unit :=
  if start < stop ∧ c.maxPages ≤ c.pageOf (stop - 1) then
    .error (.pageOutOfRange (c.pageOf (stop - 1)))
  else .ok ()

/-- Without translation there are no faults. -/
theorem RangeMapping.of_identity {ω : Type} [Backing ω] {s s' : Paging c × ω}
    {answer : Except Error Unit} (h : RangeMapping stores start stop s answer s')
    (mode : c.mode = .identity) :
  answer = rangeAnswer c start stop ∧ s' = s
  := by
  rw [rangeAnswer]
  cases h with
  | nothing none =>
      rw [if_neg fun h => absurd h.1 (Nat.not_lt_of_le none)]
      constructor
      · rfl
      · rfl
  | beyond some above =>
      rw [if_pos ⟨some, above⟩]
      constructor
      · rfl
      · rfl
  | identity some below mode' =>
      rw [if_neg fun h => absurd h.2 (Nat.not_le_of_lt below)]
      constructor
      · rfl
      · rfl
  | paged some below mode' progress =>
      rw [mode] at mode'
      cases mode'

section Ranges

variable (fits : c.maxPages ≤ pageLimit) (all : ∀ device, stores.has device = true)
include fits all

theorem Progress.succeeds {count : Nat} {mapped : List Nat} {answer : Except Error Unit}
    (h : Progress stores count page mapped s answer s') (range : page + count ≤ c.maxPages)
    (g : Guarded ∅ s) (ample : Ample c (sizes s)) :
  answer = .ok ()
  := by
  induction h with
  | done => rfl
  | skipped present rest ih => apply ih (by omega) g ample
  | undone absent mapping =>
      obtain ⟨frame, ok⟩ := mapping.succeeds fits all ample.words g (g.supplied ample)
      cases ok
  | @mapped count page frame mapped s s' s'' answer absent mapping rest ih =>
      have hp : page < pageLimit := by omega
      have empty : s.1.places page = none := by
        rw [places_of_lt hp]
        apply Entry.place?_eq_none_iff.mpr absent
      obtain ⟨g', kept⟩ := mapping.keeps fits (by omega) empty g
      apply ih (by omega) g'
      rw [kept.sizes_eq]
      apply ample

/-- With ample memories no fault fails. -/
theorem RangeMapping.answer_eq {answer : Except Error Unit}
    (h : RangeMapping stores start stop s answer s') (g : Guarded ∅ s)
    (ample : Ample c (sizes s)) :
  answer = rangeAnswer c start stop
  := by
  rw [rangeAnswer]
  cases h with
  | nothing none => rw [if_neg fun h => absurd h.1 (Nat.not_lt_of_le none)]
  | beyond some above => rw [if_pos ⟨some, above⟩]
  | identity some below mode => rw [if_neg fun h => absurd h.2 (Nat.not_le_of_lt below)]
  | paged some below mode progress =>
      rw [if_neg fun h => absurd h.2 (Nat.not_le_of_lt below)]
      have le := pageOf_mono (c := c) (Nat.le_sub_one_of_lt some)
      apply progress.succeeds fits all (by omega) g ample

end Ranges

end VirtualMemory.Paging
