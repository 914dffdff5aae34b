import VirtualMemory.Proofs.Operation.Reports
import VirtualMemory.Proofs.Paging.Agreement

/-!
# Pages within a set

For a set of pages, it is kept that only pages of the set have an entry.  A fault may add the page
that it is for; a range that cannot be mapped adds none, since the pages that were mapped are
unmapped again.

A fault for a page below the limit does not fail for a page number beyond it, and all that faults
report is that pages move.
-/

namespace VirtualMemory

/-- Whether an event is that a page left its frame or came back to one. -/
def Event.IsMove : Event → Prop
  | evicted .. | swappedIn .. => True
  | _ => False

namespace Paging

variable {c : Config} {ω : Type} {p p' : Paging c} {A B : Nat → Prop} {page other : Nat} {e : Entry}

/-- Only pages in `A` have an entry. -/
structure Within (A : Nat → Prop) (p : Paging c) : Prop where
  mem : ∀ page < pageLimit, p.entry page ≠ .empty → A page

theorem within_empty :
  (empty c).Within A
  := ⟨fun _ _ ne => absurd rfl ne⟩

namespace Within

theorem mono (w : p.Within A) (sub : ∀ page, A page → B page) :
  p.Within B
  := by
  constructor
  intro page hp ne
  apply sub page (w.mem page hp ne)

/-- A page with a place has an entry. -/
theorem of_place (w : p.Within A) {x : Place} (hp : page < pageLimit)
    (place : (p.entry page).place? = some x) :
  A page
  := by
  apply w.mem page hp
  intro eq
  rw [eq] at place
  cases place

/-- A page may leave its frame for a slot. -/
theorem swapsOut {stores : Stores} (w : p.Within A) (swaps : SwapsOut stores p p') :
  p'.Within A
  := by
  constructor
  intro page hp ne
  rcases swaps page hp with eq | ⟨-, resident, swapped⟩
  · rw [eq] at ne
    apply w.mem page hp ne
  · obtain ⟨frame, place⟩ := Entry.isResident_iff.mp resident
    apply w.of_place hp place

/-- A page of the set becomes resident. -/
theorem install (w : p.Within A) (hpage : page < pageLimit) (inside : A page) :
  (p.install page e).Within A
  := by
  constructor
  intro other hp
  rw [Paging.install, entry_enlist, entry_setEntry hpage hp]
  split
  · next eq =>
      intro _
      rw [eq]
      apply inside
  · apply w.mem other hp

/-- A page that is unmapped leaves the set. -/
theorem clear (w : p.Within fun other => A other ∨ other = page) (hpage : page < pageLimit) :
  ((p.clearEntry page).unlist page).Within A
  := by
  constructor
  intro other hp
  have entry_eq : (p.clearEntry page).entry other = if other = page then .empty else p.entry other
    := entry_setEntry hpage hp
  rw [entry_unlist, entry_eq]
  split
  · intro ne
    exact absurd rfl ne
  · next other_ne =>
      intro ne
      apply (w.mem other hp ne).resolve_right other_ne

/-- A page gets the dirty flag. -/
theorem setDirty (w : p.Within A) (hpage : page < pageLimit)
    (resident : (p.entry page).isResident = true) :
  (p.setEntry page (p.entry page).withDirty).Within A
  := by
  constructor
  intro other hp
  rw [entry_setEntry hpage hp]
  split
  · next eq =>
      intro _
      obtain ⟨frame, place⟩ := Entry.isResident_iff.mp resident
      rw [eq]
      apply w.of_place hpage place
  · apply w.mem other hp

end Within

/-! ### Faults -/

section Kept

variable [Backing ω] {stores : Stores} {s s' : Paging c × ω} {slot frame : Nat}
variable {answer : Except Error Nat}

/-- A page that is mapped joins the set; one that is not does not. -/
theorem Mapping.within (h : Mapping stores page s answer s') (fits : c.maxPages ≤ pageLimit)
    (below : page < c.maxPages) (a : s.1.Agreement) (w : s.1.Within A)
    (inside : ∀ frame, answer = .ok frame → A page) :
  s'.1.Within A
  := by
  cases h with
  | noFrame obtaining => apply w.swapsOut (obtaining.swapsOut fits a)
  | rejected obtaining unfit => apply w.swapsOut (obtaining.swapsOut fits a)
  | uncleared obtaining cleared => apply w.swapsOut (obtaining.swapsOut fits a)
  | mapped obtaining fit cleared =>
      apply (w.swapsOut (obtaining.swapsOut fits a)).install (lt_of_lt_of_le below fits)
      apply inside _ rfl

/-- A page that comes back is in the set. -/
theorem Return.within (h : Return stores page slot s answer s') (fits : c.maxPages ≤ pageLimit)
    (below : page < c.maxPages) (place : (s.1.entry page).place? = some (.swap, slot))
    (a : s.1.Agreement) (w : s.1.Within A) :
  s'.1.Within A
  := by
  have hp : page < pageLimit := lt_of_lt_of_le below fits
  cases h with
  | noStore missing => apply w
  | noFrame obtaining => apply w.swapsOut (obtaining.swapsOut fits a)
  | uncopied brought obtaining copied => apply w.swapsOut (obtaining.swapsOut fits a)
  | rejected brought obtaining copied unfit => apply w.swapsOut (obtaining.swapsOut fits a)
  | returned brought obtaining copied fit =>
      apply (w.swapsOut (obtaining.swapsOut fits a)).install hp (w.of_place hp place)

theorem Resolution.within (h : Resolution stores page s answer s') (fits : c.maxPages ≤ pageLimit)
    (a : s.1.Agreement) (w : s.1.Within A) (inside : c.mode = .paged → A page) :
  s'.1.Within A
  := by
  cases h with
  | beyond above => apply w
  | identity below mode => apply w
  | resident below mode place => apply w
  | swapped below mode place fault => apply fault.within fits below place a w
  | unmapped below mode place fault =>
      apply fault.within fits below a w
      intro frame ok
      apply inside mode

/-! ### Ranges -/

theorem within_withdraw {pages : List Nat} (inside : ∀ page ∈ pages, page < pageLimit)
    (w : s.1.Within fun page => A page ∨ page ∈ pages) :
  (pages.foldl (withdraw stores) s).1.Within A
  := by
  induction pages generalizing s with
  | nil =>
      apply w.mono
      rintro page (mem | mem)
      · apply mem
      · cases mem
  | cons page rest ih =>
      apply ih
      · intro other mem
        apply inside other (List.mem_cons_of_mem _ mem)
      · apply Within.clear _ (inside page List.mem_cons_self)
        apply w.mono
        intro other mem
        rw [List.mem_cons] at mem
        tauto

/-- The pages of a range join the set if all of them are mapped; otherwise those that were mapped
leave it again. -/
theorem Progress.within {count : Nat} {mapped : List Nat} {answer : Except Error Unit}
    (h : Progress stores count page mapped s answer s') (fits : c.maxPages ≤ pageLimit)
    (range : page + count ≤ c.maxPages) (listed : ∀ page ∈ mapped, page < pageLimit)
    (a : s.1.Agreement) (w : s.1.Within fun page => A page ∨ page ∈ mapped)
    (inside : answer = .ok () → (∀ page ∈ mapped, A page) ∧
      ∀ other, page ≤ other → other < page + count → A other) :
  s'.1.Within A
  := by
  induction h with
  | done =>
      apply w.mono
      rintro page (mem | mem)
      · apply mem
      · apply (inside rfl).1 page mem
  | skipped present rest ih =>
      apply ih (by omega) listed a w
      intro ok
      use (inside ok).1
      intro other le lt
      apply (inside ok).2 other (by omega) (by omega)
  | undone absent mapping =>
      apply within_withdraw listed
      apply mapping.within fits (by omega) a w
      intro frame ok
      cases ok
  | @mapped count page frame mapped s s' s'' answer absent mapping rest ih =>
      have below : page < c.maxPages := by omega
      have absent' := Entry.isResident_eq_false_of_absent absent
      apply ih (by omega)
      · intro other mem
        rcases List.mem_append.mp mem with mem | mem
        · apply listed other mem
        · rw [List.mem_singleton.mp mem]
          apply lt_of_lt_of_le below fits
      · apply mapping.agreement fits below absent' a
      · apply mapping.within fits below a
        · apply w.mono
          rintro other (mem | mem)
          · exact Or.inl mem
          · exact Or.inr (List.mem_append_left _ mem)
        · intro frame ok
          right
          apply List.mem_append_right _ (List.mem_singleton_self page)
      · intro ok
        constructor
        · intro other mem
          rcases List.mem_append.mp mem with mem | mem
          · apply (inside ok).1 other mem
          · rw [List.mem_singleton.mp mem]
            apply (inside ok).2 page (Nat.le_refl _) (by omega)
        · intro other le lt
          apply (inside ok).2 other (by omega) (by omega)

theorem RangeMapping.within {start stop : Nat} {answer : Except Error Unit}
    (h : RangeMapping stores start stop s answer s') (fits : c.maxPages ≤ pageLimit)
    (a : s.1.Agreement) (w : s.1.Within A)
    (inside : start < stop → answer = .ok () → ∀ page, c.pageOf start ≤ page →
      page ≤ c.pageOf (stop - 1) → A page) :
  s'.1.Within A
  := by
  cases h with
  | nothing none => apply w
  | beyond some above => apply w
  | identity some below mode => apply w
  | paged some below mode progress =>
      have le := pageOf_mono (c := c) (Nat.le_sub_one_of_lt some)
      apply progress.within fits (by omega) (by simp) a (w.mono fun page => Or.inl)
      intro ok
      constructor
      · simp
      · intro page le' lt
        apply inside some ok page le' (by omega)

theorem Release.within (h : Release stores s answer s') (w : s.1.Within A) :
  s'.1.Within A
  := by
  cases h with
  | identity mode => apply w
  | released mode => apply within_empty

/-! ### How faults fail -/

theorem Eviction.error_ne {e : Error} (h : Eviction stores s (.error e) s') :
  e ≠ .pageOutOfRange other
  := by
  rintro rfl
  cases h

theorem Obtaining.error_ne {e : Error} (h : Obtaining stores s (.error e) s') :
  e ≠ .pageOutOfRange other
  := by
  rintro rfl
  cases h with
  | full brought acquired eviction => exact eviction.error_ne rfl

/-- A fault fails for a page number only if the page is beyond the limit. -/
theorem Resolution.error_ne {e : Error} (h : Resolution stores page s (.error e) s')
    (below : page < c.maxPages) :
  e ≠ .pageOutOfRange other
  := by
  rintro rfl
  cases h with
  | beyond above => omega
  | swapped below' mode place fault =>
      cases fault with
      | noFrame obtaining => exact obtaining.error_ne rfl
  | unmapped below' mode place fault =>
      cases fault with
      | noFrame obtaining => exact obtaining.error_ne rfl

/-! ### What faults report -/

theorem reports_takeVictim {P : Event → Prop} :
  takeVictim.Reports p P
  := by
  constructor
  intro e mem
  rw [takeVictim] at mem
  split at mem
  · cases mem
  · cases mem

omit [Backing ω] in
theorem reports_frameOf {P : Event → Prop} :
  (frameOf page).Reports s P
  := by
  apply Op.Reports.bind .gets
  intro e s'
  split
  · apply Op.Reports.pure
  · apply Op.Reports.fail

theorem reports_evict :
  (evict stores).Reports s Event.IsMove
  := by
  apply Op.Reports.bind .require
  intro u s'
  apply Op.Reports.bind (.mapError .access)
  intro slot s'
  apply Op.Reports.bind (.onFailure (.onFirst reports_takeVictim) fun e s' => .release)
  intro victim s'
  apply Op.Reports.bind (.onFailure reports_frameOf fun e s' => .release)
  intro frame s'
  apply Op.Reports.bind (.onFailure .access fun e s' => .bind .release fun u s' => .onFirst .modify)
  intro u s'
  apply Op.Reports.bind (.onFirst .modify)
  intro u s'
  apply Op.Reports.bind (.emit trivial)
  intro u s'
  apply Op.Reports.pure

theorem reports_obtainFrame :
  (obtainFrame stores).Reports s Event.IsMove
  := by
  apply Op.Reports.bind .require
  intro u s'
  apply Op.Reports.bind (.attempt .access)
  intro acquired s'
  split
  · apply Op.Reports.pure
  · apply reports_evict
  · apply Op.Reports.fail

theorem reports_mapPage :
  (mapPage stores page).Reports s Event.IsMove
  := by
  apply Op.Reports.bind .require
  intro u s'
  apply Op.Reports.bind reports_obtainFrame
  intro frame s'
  split
  · apply Op.Reports.bind .release
    intro u s'
    apply Op.Reports.fail
  · apply Op.Reports.bind (.onFailure .access fun e s' => .release)
    intro u s'
    apply Op.Reports.bind (.onFirst .modify)
    intro u s'
    apply Op.Reports.pure

theorem reports_swapIn :
  (swapIn stores page slot).Reports s Event.IsMove
  := by
  apply Op.Reports.bind .require
  intro u s'
  apply Op.Reports.bind .require
  intro u s'
  apply Op.Reports.bind reports_obtainFrame
  intro frame s'
  apply Op.Reports.bind (.onFailure .access fun e s' => .release)
  intro u s'
  apply Op.Reports.bind .release
  intro u s'
  split
  · apply Op.Reports.fail
  · apply Op.Reports.bind (.onFirst .modify)
    intro u s'
    apply Op.Reports.bind (.emit trivial)
    intro u s'
    apply Op.Reports.pure

omit [Backing ω] in
theorem reports_markDirty {P : Event → Prop} :
  (markDirty page).Reports s P
  := by
  constructor
  rw [run_markDirty]
  intro e mem
  cases mem

/-- All that a fault reports is that pages move. -/
theorem reports_resolve :
  (resolve stores page).Reports s Event.IsMove
  := by
  apply Op.Reports.bind
  · rw [checkPage]
    split
    · apply Op.Reports.pure
    · apply Op.Reports.fail
  · intro u s'
    split
    · apply Op.Reports.pure
    · apply Op.Reports.bind .gets
      intro e s'
      split
      · apply Op.Reports.pure
      · apply reports_swapIn
      · apply reports_mapPage

end Kept

end Paging

end VirtualMemory
