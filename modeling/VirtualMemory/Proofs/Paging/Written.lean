import VirtualMemory.Proofs.Paging.Recency

/-!
# Pages that were written to

The dirty flag of a resident page says whether the page was written to since it became resident.
What this compares the flag with is a journal, which notes each page fault and each byte that is
written.  A fault leaves an entry as it is, or replaces it by one without the flag; and if the page
is resident then it was not before.  So a page that becomes resident starts without the flag, and
one that is swapped never has it, whatever the stores answer and wherever a fault stops.
-/

namespace VirtualMemory.Paging

variable {c : Config} {ω : Type} {p p' p'' : Paging c} {page other address : Nat} {e : Entry}

/-! ### Entries after a fault -/

/-- Each entry is kept, or is replaced by one without the dirty flag, with which the page is not
resident unless it has become so. -/
def Renews (p p' : Paging c) : Prop :=
  ∀ page, p'.entry page = p.entry page ∨ (p'.entry page).isDirty = false ∧
    ((p'.entry page).isResident = true → (p.entry page).isResident = false)

theorem Renews.refl :
  Renews p p
  := fun _ => Or.inl rfl

/-- A page that was not resident becomes resident. -/
theorem Renews.install {frame : Nat} (h : Renews p p') (absent : (p.entry page).isResident = false)
    (fit : Entry.resident? frame = some e) :
  Renews p (p'.install page e)
  := by
  intro other
  rw [Paging.install, entry_enlist, entry_setEntry_mod]
  split
  · next same =>
      right
      use Entry.isDirty_resident? fit
      intro resident
      rw [← entry_mod, same, entry_mod]
      apply absent
  · apply h

section Faults

variable [Backing ω] {stores : Stores} {s s' : Paging c × ω} {answer : Except Error Nat}

/-- The page that is evicted gets an entry without the dirty flag. -/
theorem Eviction.renews (h : Eviction stores s answer s') :
  Renews s.1 s'.1
  := by
  cases h with
  | noStore missing => apply Renews.refl
  | noSlot brought acquired => apply Renews.refl
  | noVictim brought acquired idle => apply Renews.refl
  | homeless brought acquired oldest home => exact Renews.refl
  | uncopied brought acquired oldest home copied => exact Renews.refl
  | evicted brought acquired oldest home copied =>
      intro other
      rw [entry_setEntry_mod]
      split
      · right
        use Entry.isDirty_ofSwap
        intro resident
        rw [Entry.isResident_eq_false_of_swapped Entry.isSwapped_ofSwap] at resident
        cases resident
      · exact Or.inl rfl

theorem Obtaining.renews (h : Obtaining stores s answer s') :
  Renews s.1 s'.1
  := by
  cases h with
  | noStore missing => apply Renews.refl
  | free brought acquired => apply Renews.refl
  | refused brought acquired other => apply Renews.refl
  | full brought acquired eviction => exact eviction.renews

theorem Mapping.renews (h : Mapping stores page s answer s')
    (absent : (s.1.entry page).isResident = false) :
  Renews s.1 s'.1
  := by
  cases h with
  | noFrame obtaining => apply obtaining.renews
  | rejected obtaining unfit => exact obtaining.renews
  | uncleared obtaining cleared => exact obtaining.renews
  | mapped obtaining fit cleared => apply Renews.install obtaining.renews absent fit

theorem Return.renews {slot : Nat} (h : Return stores page slot s answer s')
    (absent : (s.1.entry page).isResident = false) :
  Renews s.1 s'.1
  := by
  cases h with
  | noStore missing => apply Renews.refl
  | noFrame obtaining => apply obtaining.renews
  | uncopied brought obtaining copied => exact obtaining.renews
  | rejected brought obtaining copied unfit => exact obtaining.renews
  | returned brought obtaining copied fit => apply Renews.install obtaining.renews absent fit

theorem Resolution.renews (h : Resolution stores page s answer s') :
  Renews s.1 s'.1
  := by
  cases h with
  | beyond above => apply Renews.refl
  | identity below mode => apply Renews.refl
  | resident below mode place => apply Renews.refl
  | swapped below mode place fault =>
      apply fault.renews (Entry.isResident_eq_false_of_place place (by simp))
  | unmapped below mode place fault =>
      apply fault.renews (Entry.isResident_eq_false_of_place place (by simp))

end Faults

/-! ### Journals -/

/-- What a journal notes. -/
inductive Note (c : Config) (ω : Type)
  /-- A moment in the life of the pages. -/
  | moment (m : Moment c ω)
  /-- A byte is written at a virtual address. -/
  | wrote (address : Nat)

/-- Notes, the newest one first. -/
abbrev Journal (c : Config) (ω : Type) : Type := List (Note c ω)

/-- Whether a note is of the fault with which a page becomes resident. -/
def Note.Brings (page : Nat) : Note c ω → Prop
  | moment (.fault _ before after) =>
    (before.1.entry page).isResident = false ∧ (after.entry page).isResident = true
  | _ => False

/-- What was noted since a page became resident for the last time. -/
def Since (journal : Journal c ω) (page : Nat) (since : Journal c ω) : Prop :=
  ∃ arrival older, journal = since ++ arrival :: older ∧ arrival.Brings page ∧
    ∀ note ∈ since, ¬ note.Brings page

/-- The dirty flag of each resident page says whether the page was written to since it became
resident, and swapped pages do not have it. -/
structure Tracked (journal : Journal c ω) (p : Paging c) : Prop where
  resident : ∀ page < pageLimit, (p.entry page).isResident = true →
    ∃ since, Since journal page since ∧
      ((p.entry page).isDirty = true ↔ ∃ address, .wrote address ∈ since ∧ c.pageOf address = page)
  swapped : ∀ page, (p.entry page).isSwapped = true → (p.entry page).isDirty = false

variable {journal since : Journal c ω} {note : Note c ω}

theorem Since.cons (h : Since journal page since) (other : ¬ note.Brings page) :
  Since (note :: journal) page (note :: since)
  := by
  obtain ⟨arrival, older, rfl, brings, silent⟩ := h
  use arrival, older, rfl, brings
  intro note' mem
  rcases List.mem_cons.mp mem with rfl | mem
  · apply other
  · apply silent note' mem

theorem Since.nil (brings : note.Brings page) :
  Since (note :: journal) page []
  := by
  use note, journal, rfl, brings
  intro note' mem
  cases mem

/-- At the outset no page is resident. -/
theorem tracked_empty :
  Tracked journal (empty c)
  := by
  constructor
  · intro page below resident
    rw [entry_empty] at resident
    exact absurd resident Bool.false_ne_true
  · intro page swapped
    rw [entry_empty] at swapped
    exact absurd swapped Bool.false_ne_true

/-- Some entries may be emptied. -/
theorem Tracked.of_kept (h : Tracked journal p)
    (kept : ∀ page, p'.entry page = p.entry page ∨ p'.entry page = .empty) :
  Tracked journal p'
  := by
  constructor
  · intro page below resident
    rcases kept page with same | emptied
    · rw [same] at resident ⊢
      apply h.resident page below resident
    · rw [emptied] at resident
      exact absurd resident Bool.false_ne_true
  · intro page swapped
    rcases kept page with same | emptied
    · rw [same] at swapped ⊢
      apply h.swapped page swapped
    · rw [emptied] at swapped
      exact absurd swapped Bool.false_ne_true

/-- A fault is noted. -/
theorem Tracked.fault {stores : Stores} {s : Paging c × ω} (h : Tracked journal s.1)
    (renews : Renews s.1 p') :
  Tracked (.moment (.fault stores s p') :: journal) p'
  := by
  constructor
  · intro page below resident
    rcases renews page with same | ⟨clean, fresh⟩
    · rw [same] at resident ⊢
      obtain ⟨since, arrived, dirty⟩ := h.resident page below resident
      apply Exists.intro
      constructor
      · apply arrived.cons
        rintro ⟨absent, -⟩
        rw [absent] at resident
        cases resident
      · simp only [dirty, List.mem_cons, reduceCtorEq, false_or]
    · use [], .nil ⟨fresh resident, resident⟩
      simp only [clean, Bool.false_eq_true, List.not_mem_nil, false_and, exists_false]
  · intro page swapped
    rcases renews page with same | ⟨clean, -⟩
    · rw [same] at swapped ⊢
      apply h.swapped page swapped
    · apply clean

/-- The entries of a page that was written to, and of those congruent to it, have the flag if they
are of resident pages. -/
theorem entry_afterWrite :
  (p.afterWrite page).entry other =
    if other % pageLimit = page % pageLimit ∧ (p.entry other).isResident = true
    then (p.entry other).withDirty else p.entry other
  := by
  by_cases same : other % pageLimit = page % pageLimit
  · have entry_eq : p.entry other = p.entry page := by
      rw [← entry_mod, same, entry_mod]
    rw [afterWrite, entry_eq]
    split
    · next resident => rw [entry_setEntry_mod, if_pos same, if_pos ⟨same, resident⟩]
    · next absent => rw [entry_eq, if_neg (absent ·.2)]
  · have elsewhere : ¬ (other % pageLimit = page % pageLimit ∧ (p.entry other).isResident = true) :=
      fun here => same here.1
    rw [if_neg elsewhere, afterWrite]
    split
    · rw [entry_setEntry_mod, if_neg same]
    · rfl

/-- A byte is written, and noted. -/
theorem Tracked.wrote (h : Tracked journal p) (below : c.pageOf address < pageLimit) :
  Tracked (.wrote address :: journal) (p.afterWrite (c.pageOf address))
  := by
  constructor
  · intro page below' resident
    rw [entry_afterWrite] at resident ⊢
    have was : (p.entry page).isResident = true := by
      split at resident
      · next here => apply here.2
      · apply resident
    obtain ⟨since, arrived, dirty⟩ := h.resident page below' was
    apply Exists.intro
    use arrived.cons id
    rw [Nat.mod_eq_of_lt below', Nat.mod_eq_of_lt below]
    split
    · next here =>
        simp only [Entry.isDirty_withDirty, true_iff]
        use address, List.mem_cons_self
        apply here.1.symm
    · next elsewhere =>
        rw [dirty]
        constructor
        · rintro ⟨a, mem, at_page⟩
          use a, List.mem_cons_of_mem _ mem, at_page
        · rintro ⟨a, mem, at_page⟩
          rcases List.mem_cons.mp mem with newest | mem
          · cases newest
            exact absurd ⟨at_page.symm, was⟩ elsewhere
          · use a
  · intro page swapped
    rw [entry_afterWrite] at swapped ⊢
    split
    · next here =>
        rw [if_pos here, Entry.isSwapped_withDirty] at swapped
        have resident := here.2
        rw [Entry.isResident_eq_false_of_swapped swapped] at resident
        cases resident
    · next elsewhere =>
        rw [if_neg elsewhere] at swapped
        apply h.swapped page swapped

section Ranges

variable [Backing ω] {stores : Stores} {s : Paging c × ω}

/-- A journal that goes on with the moments of a history. -/
def Journal.extend (journal : Journal c ω) (history : History c ω) : Journal c ω :=
  history.map .moment ++ journal

/-- Pages that are withdrawn are empty, and the others are kept. -/
theorem entry_withdraw {pages : List Nat} :
  (pages.foldl (withdraw stores) s).1.entry other = s.1.entry other ∨
    (pages.foldl (withdraw stores) s).1.entry other = .empty
  := by
  induction pages generalizing s with
  | nil => exact Or.inl rfl
  | cons page rest ih =>
      have first : (withdraw stores s page).1.entry other = s.1.entry other ∨
          (withdraw stores s page).1.entry other = .empty
        := by
        rw [withdraw, entry_unlist, entry_clearEntry_mod]
        split
        · exact Or.inr rfl
        · exact Or.inl rfl
      rcases ih (s := withdraw stores s page) with same | emptied
      · rw [List.foldl_cons, same]
        apply first
      · exact Or.inr emptied

/-- While pages of a range are mapped, each fault is noted. -/
theorem Tracked.mapFrom {history : History c ω} {count : Nat} {mapped : List Nat}
    (h : Tracked (journal.extend history) s.1) :
  Tracked (journal.extend (rangeHistory stores count page s history))
    (mapFrom stores count page mapped s).state.1
  := by
  induction count generalizing page s mapped history with
  | zero => apply h
  | succ count ih =>
      apply Op.ends_iff_state (P := fun s' : Paging c × ω =>
        Tracked (journal.extend (rangeHistory stores (count + 1) page s history)) s'.1).mp
      simp only [Paging.mapFrom, rangeHistory, lookEntry, Op.ends_bind, Op.ends_gets]
      rcases present : (s.1.entry page).isPresent with - | -
      · have absent := Entry.isResident_eq_false_of_absent present
        have ends : Mapping stores page s _ _ := mapPage_ends
        have faulted : Tracked (journal.extend
            (.fault stores s (mapPage stores page s).state.1 :: history))
            (mapPage stores page s).state.1
          := h.fault (ends.renews absent)
        simp only [Bool.false_eq_true, if_false, Op.ends_bind, Op.ends_onFailure, Op.ends_emit]
        rw [Op.Ends]
        rcases answer : (mapPage stores page s).answer with e | frame
        · dsimp only
          rw [Op.Ends, run_unmapPages]
          apply faulted.of_kept
          intro other
          apply entry_withdraw
        · apply Op.ends_iff_state.mpr
          apply ih faulted
      · simp only [if_true]
        apply Op.ends_iff_state.mpr
        apply ih h

end Ranges

end VirtualMemory.Paging
