import VirtualMemory.Proofs.Page.Table
import VirtualMemory.Proofs.Paging.Outcomes

/-!
# Page table and resident pages agree

In every state that is reached, the list of resident pages has no page twice and lists exactly
the pages whose entry is resident, and every entry that is not empty is present, belongs to a
page below the limit of the address space, and a page of twice the size still has a word for
its length.  The addresses of every frame that holds a page are words: this is checked when the
frame is cleared, or a page is copied to it.  All this holds whatever the stores answer, since an
operation that fails half-way puts back what it took out of the list.
-/

namespace VirtualMemory.Paging

variable {c : Config} {ω : Type} {p : Paging c} {page other victim : Nat} {e : Entry}

/-! ### Entries after a change -/

theorem entry_mod :
  p.entry (page % pageLimit) = p.entry page
  := PageTable.entry_mod

theorem entry_setEntry_mod :
  (p.setEntry page e).entry other =
    if other % pageLimit = page % pageLimit then e else p.entry other
  := PageTable.entry_set

theorem entry_clearEntry_mod :
  (p.clearEntry page).entry other =
    if other % pageLimit = page % pageLimit then .empty else p.entry other
  := PageTable.entry_clear

theorem entry_setEntry (hp : page < pageLimit) (ho : other < pageLimit) :
  (p.setEntry page e).entry other = if other = page then e else p.entry other
  := by
  rw [entry_setEntry_mod, Nat.mod_eq_of_lt ho, Nat.mod_eq_of_lt hp]

@[simp]
theorem entry_enlist :
  (p.enlist page).entry other = p.entry other
  := rfl

@[simp]
theorem entry_unlist :
  (p.unlist page).entry other = p.entry other
  := rfl

@[simp]
theorem entry_empty :
  (empty c).entry page = .empty
  := rfl

/-! ### Agreement -/

/-- The page table and the list of resident pages agree. -/
structure Agreement (p : Paging c) : Prop where
  wellFormed : p.table.WellFormed
  nodup : p.residency.pages.Nodup
  mem_iff : ∀ page < pageLimit, page ∈ p.residency.pages ↔ (p.entry page).isResident = true
  below : ∀ page ∈ p.residency.pages, page < c.maxPages
  present : ∀ page < pageLimit, p.entry page ≠ .empty →
    (p.entry page).isPresent = true ∧ page < c.maxPages ∧ 2 * c.pageSize < Word.bound
  room : ∀ page < pageLimit, ∀ frame, (p.entry page).place? = some (.ram, frame) →
    frame * c.pageSize + c.pageSize < Word.bound

theorem agreement_empty :
  (empty c).Agreement
  := by
  use PageTable.wellFormed_empty, List.nodup_nil
  · intro page hp
    rw [entry_empty]
    constructor
    · intro mem
      cases mem
    · intro resident
      exact absurd resident Bool.false_ne_true
  · intro page mem
    cases mem
  · intro page hp ne
    exact absurd rfl ne
  · intro page hp frame place
    rw [entry_empty, Entry.place?_empty] at place
    cases place

/-- A page in a frame that can be encoded is not too long. -/
theorem narrow_of_room {frame : Nat} (fit : Entry.resident? frame = some e)
    (room : frame * c.pageSize + c.pageSize < Word.bound) :
  2 * c.pageSize < Word.bound
  := by
  have pos : frame ≠ 0 := by
    rintro rfl
    cases fit
  have le := Nat.le_mul_of_pos_left c.pageSize (Nat.pos_of_ne_zero pos)
  omega

namespace Agreement

/-- The oldest page is below the limit of the address space. -/
theorem oldest_lt (h : p.Agreement) {rest : List Nat}
    (oldest : p.residency.pages = victim :: rest) :
  victim < c.maxPages
  := by
  apply h.below
  rw [oldest]
  apply List.mem_cons_self

/-- The oldest page is resident. -/
theorem isResident_oldest (h : p.Agreement) (fits : c.maxPages ≤ pageLimit) {rest : List Nat}
    (oldest : p.residency.pages = victim :: rest) :
  (p.entry victim).isResident = true
  := by
  apply (h.mem_iff victim (lt_of_lt_of_le (h.oldest_lt oldest) fits)).mp
  rw [oldest]
  apply List.mem_cons_self

/-- The oldest page has a frame. -/
theorem frame?_oldest_ne_none (h : p.Agreement) (fits : c.maxPages ≤ pageLimit) {rest : List Nat}
    (oldest : p.residency.pages = victim :: rest) :
  (p.entry victim).frame? ≠ none
  := by
  obtain ⟨frame, place⟩ := Entry.isResident_iff.mp (h.isResident_oldest fits oldest)
  rw [Entry.frame?_eq_some_iff.mpr place]
  apply Option.some_ne_none

/-- The oldest page becomes the most recent one. -/
theorem requeue (h : p.Agreement) {rest : List Nat}
    (oldest : p.residency.pages = victim :: rest) :
  Agreement (c := c) { p with residency := ⟨rest ++ [victim]⟩ }
  := by
  have perm : (rest ++ [victim]).Perm p.residency.pages := by
    rw [oldest]
    apply List.perm_append_singleton
  use h.wellFormed, perm.nodup_iff.mpr h.nodup
  · intro page hp
    rw [perm.mem_iff]
    apply h.mem_iff page hp
  · intro page mem
    apply h.below page (perm.mem_iff.mp mem)
  · apply h.present
  · apply h.room

/-- The oldest page leaves its frame for a slot. -/
theorem evict (h : p.Agreement) (fits : c.maxPages ≤ pageLimit) {rest : List Nat}
    (oldest : p.residency.pages = victim :: rest) {slot : Nat} :
  (Paging.setEntry (c := c) { p with residency := ⟨rest⟩ } victim
    (.ofSwap swapDevice slot)).Agreement
  := by
  have nodup := h.nodup
  rw [oldest] at nodup
  obtain ⟨fresh, nodup⟩ := List.nodup_cons.mp nodup
  have hv : victim < pageLimit := lt_of_lt_of_le (h.oldest_lt oldest) fits
  have listed := h.isResident_oldest fits oldest
  use h.wellFormed.set, nodup
  · intro page hp
    rw [entry_setEntry hv hp]
    split
    · next eq =>
        subst eq
        constructor
        · intro mem
          exact absurd mem fresh
        · intro resident
          rw [Entry.isResident_eq_false_of_swapped Entry.isSwapped_ofSwap] at resident
          cases resident
    · next ne =>
        have mem_iff := h.mem_iff page hp
        rw [oldest, List.mem_cons] at mem_iff
        show page ∈ rest ↔ (p.entry page).isResident = true
        rw [← mem_iff]
        constructor
        · intro mem
          apply Or.inr mem
        · rintro (eq | mem)
          · exact absurd eq ne
          · apply mem
  · intro page mem
    apply h.below page
    rw [oldest]
    apply List.mem_cons_of_mem _ mem
  · intro page hp
    rw [entry_setEntry hv hp]
    split
    · next eq =>
        subst eq
        intro _
        have ne : p.entry page ≠ .empty := by
          intro eq
          rw [eq] at listed
          exact Bool.false_ne_true listed
        constructor
        · rw [Entry.isPresent, Entry.has_ofSwap]
          rfl
        · apply (h.present page hp ne).2
    · apply h.present page hp
  · intro page hp
    rw [entry_setEntry hv hp]
    split
    · intro frame place
      obtain ⟨slot', home⟩ := Entry.isSwapped_iff.mp Entry.isSwapped_ofSwap
      rw [home] at place
      cases place
    · apply h.room page hp

/-- A page that is not resident becomes resident. -/
theorem install (h : p.Agreement) (fits : c.maxPages ≤ pageLimit) (below : page < c.maxPages)
    (absent : (p.entry page).isResident = false) {frame : Nat}
    (fit : Entry.resident? frame = some e) (room : frame * c.pageSize + c.pageSize < Word.bound) :
  (p.install page e).Agreement
  := by
  have hpage : page < pageLimit := lt_of_lt_of_le below fits
  have fresh : page ∉ p.residency.pages := by
    rw [h.mem_iff page hpage, absent]
    exact Bool.false_ne_true
  have place := Entry.place?_resident? fit
  rw [Paging.install]
  use h.wellFormed.set
  · apply List.nodup_append.mpr
    use h.nodup, List.nodup_singleton page
    intro a mem b mem' eq
    rw [List.mem_singleton] at mem'
    rw [eq, mem'] at mem
    apply fresh mem
  · intro other hp
    rw [entry_enlist, entry_setEntry hpage hp]
    simp only [enlist, setEntry, Residency.pages_enlist, List.mem_append, List.mem_singleton]
    split
    · next eq =>
        simp only [eq, or_true, true_iff]
        rw [Entry.isResident_iff]
        use frame
    · next ne => simp only [ne, or_false, h.mem_iff other hp]
  · intro other mem
    simp only [enlist, setEntry, Residency.pages_enlist, List.mem_append, List.mem_singleton] at mem
    rcases mem with mem | rfl
    · apply h.below other mem
    · apply below
  · intro other hp
    rw [entry_enlist, entry_setEntry hpage hp]
    split
    · next eq =>
        intro _
        constructor
        · rw [← Entry.isSome_place?, place]
          rfl
        use eq ▸ below
        apply narrow_of_room fit room
    · apply h.present other hp
  · intro other hp
    rw [entry_enlist, entry_setEntry hpage hp]
    split
    · intro frame' place'
      rw [place] at place'
      cases place'
      apply room
    · apply h.room other hp

/-- A page is unmapped. -/
theorem clear (h : p.Agreement) (hpage : page < pageLimit) :
  ((p.clearEntry page).unlist page).Agreement
  := by
  have entry_eq (other : Nat) (hp : other < pageLimit) :
      (p.clearEntry page).entry other = if other = page then .empty else p.entry other
    := entry_setEntry hpage hp
  use h.wellFormed.clear
  · apply h.nodup.erase
  · intro other hp
    rw [entry_unlist, entry_eq other hp]
    simp only [unlist, clearEntry, Residency.pages_remove, h.nodup.mem_erase_iff]
    split
    · next eq =>
        simp only [eq, ne_eq, not_true_eq_false, false_and, false_iff]
        exact Bool.false_ne_true
    · next ne => simp only [ne, ne_eq, not_false_eq_true, true_and, h.mem_iff other hp]
  · intro other mem
    apply h.below other (List.mem_of_mem_erase mem)
  · intro other hp
    rw [entry_unlist, entry_eq other hp]
    split
    · intro ne
      exact absurd rfl ne
    · apply h.present other hp
  · intro other hp
    rw [entry_unlist, entry_eq other hp]
    split
    · intro frame place
      rw [Entry.place?_empty] at place
      cases place
    · apply h.room other hp

/-- A page gets the dirty flag. -/
theorem setDirty (h : p.Agreement) (hpage : page < pageLimit)
    (resident : (p.entry page).isResident = true) :
  (p.setEntry page (p.entry page).withDirty).Agreement
  := by
  have nonempty : p.entry page ≠ .empty := by
    intro eq
    rw [eq] at resident
    exact Bool.false_ne_true resident
  use h.wellFormed.set, h.nodup
  · intro other hp
    rw [entry_setEntry hpage hp]
    split
    · next eq =>
        rw [eq, Entry.isResident_withDirty]
        apply h.mem_iff page hpage
    · apply h.mem_iff other hp
  · apply h.below
  · intro other hp
    rw [entry_setEntry hpage hp]
    split
    · next eq =>
        intro _
        rw [eq, Entry.isPresent_withDirty]
        apply h.present page hpage nonempty
    · apply h.present other hp
  · intro other hp
    rw [entry_setEntry hpage hp]
    split
    · rw [Entry.place?_withDirty]
      apply h.room page hpage
    · apply h.room other hp

end Agreement

/-! ### Agreement is kept -/

section Kept

variable [Backing ω] {stores : Stores} {s s' : Paging c × ω} {answer : Except Error Nat}

theorem Eviction.agreement (h : Eviction stores s answer s') (fits : c.maxPages ≤ pageLimit)
    (a : s.1.Agreement) :
  s'.1.Agreement
  := by
  cases h with
  | noStore missing => apply a
  | noSlot brought acquired => apply a
  | noVictim brought acquired idle => apply a
  | homeless brought acquired oldest home =>
      exact absurd home (a.frame?_oldest_ne_none fits oldest)
  | uncopied brought acquired oldest home copied => apply a.requeue oldest
  | evicted brought acquired oldest home copied => apply a.evict fits oldest

theorem Obtaining.agreement (h : Obtaining stores s answer s') (fits : c.maxPages ≤ pageLimit)
    (a : s.1.Agreement) :
  s'.1.Agreement
  := by
  cases h with
  | noStore missing => apply a
  | free brought acquired => apply a
  | refused brought acquired other => apply a
  | full brought acquired eviction => apply eviction.agreement fits a

/-- Each page has the same entry afterwards, but one that was resident may be swapped. -/
def SwapsOut (stores : Stores) (p p' : Paging c) : Prop :=
  ∀ page < pageLimit, p'.entry page = p.entry page ∨
    (stores.swap = true ∧ (p.entry page).isResident = true ∧ (p'.entry page).isSwapped = true)

theorem SwapsOut.refl :
  SwapsOut stores p p
  := fun _ _ => Or.inl rfl

/-- A page that is not resident keeps its entry. -/
theorem SwapsOut.entry_eq {p' : Paging c} (h : SwapsOut stores p p') (hp : page < pageLimit)
    (absent : (p.entry page).isResident = false) :
  p'.entry page = p.entry page
  := by
  rcases h page hp with eq | ⟨-, resident, -⟩
  · apply eq
  · rw [absent] at resident
    cases resident

theorem Eviction.swapsOut (h : Eviction stores s answer s') (fits : c.maxPages ≤ pageLimit)
    (a : s.1.Agreement) :
  SwapsOut stores s.1 s'.1
  := by
  cases h with
  | noStore missing => apply SwapsOut.refl
  | noSlot brought acquired => apply SwapsOut.refl
  | noVictim brought acquired idle => apply SwapsOut.refl
  | homeless brought acquired oldest home => apply SwapsOut.refl
  | uncopied brought acquired oldest home copied => apply SwapsOut.refl
  | @evicted p _ _ _ slot victim frame rest brought acquired oldest home copied =>
      have hv : victim < pageLimit := lt_of_lt_of_le (a.oldest_lt oldest) fits
      intro page hp
      rw [entry_setEntry hv hp]
      split
      · next eq =>
          subst eq
          apply Or.inr
          use brought, a.isResident_oldest fits oldest
          apply Entry.isSwapped_ofSwap
      · apply Or.inl rfl

theorem Obtaining.swapsOut (h : Obtaining stores s answer s') (fits : c.maxPages ≤ pageLimit)
    (a : s.1.Agreement) :
  SwapsOut stores s.1 s'.1
  := by
  cases h with
  | noStore missing => apply SwapsOut.refl
  | free brought acquired => apply SwapsOut.refl
  | refused brought acquired other => apply SwapsOut.refl
  | full brought acquired eviction => apply eviction.swapsOut fits a

theorem Mapping.agreement (h : Mapping stores page s answer s') (fits : c.maxPages ≤ pageLimit)
    (below : page < c.maxPages) (absent : (s.1.entry page).isResident = false)
    (a : s.1.Agreement) :
  s'.1.Agreement
  := by
  cases h with
  | noFrame obtaining => apply obtaining.agreement fits a
  | rejected obtaining unfit => apply obtaining.agreement fits a
  | uncleared obtaining cleared => apply obtaining.agreement fits a
  | mapped obtaining fit cleared =>
      have entry_eq := (obtaining.swapsOut fits a).entry_eq (lt_of_lt_of_le below fits) absent
      apply (obtaining.agreement fits a).install fits below _ fit (room_of_clearFrame cleared)
      rw [entry_eq, absent]

theorem Return.agreement {slot : Nat} (h : Return stores page slot s answer s')
    (fits : c.maxPages ≤ pageLimit) (below : page < c.maxPages)
    (place : (s.1.entry page).place? = some (.swap, slot)) (a : s.1.Agreement) :
  s'.1.Agreement
  := by
  have hp : page < pageLimit := lt_of_lt_of_le below fits
  have swapped : (s.1.entry page).isSwapped = true := Entry.isSwapped_iff.mpr ⟨slot, place⟩
  have absent := Entry.isResident_eq_false_of_swapped swapped
  cases h with
  | noStore missing => apply a
  | noFrame obtaining => apply obtaining.agreement fits a
  | uncopied brought obtaining copied => apply obtaining.agreement fits a
  | rejected brought obtaining copied unfit => apply obtaining.agreement fits a
  | returned brought obtaining copied fit =>
      have entry_eq := (obtaining.swapsOut fits a).entry_eq hp absent
      apply (obtaining.agreement fits a).install fits below _ fit (room_of_copyPage copied)
      rw [entry_eq, absent]

theorem Resolution.agreement (h : Resolution stores page s answer s')
    (fits : c.maxPages ≤ pageLimit) (a : s.1.Agreement) :
  s'.1.Agreement
  := by
  cases h with
  | beyond above => apply a
  | identity below mode => apply a
  | resident below mode place => apply a
  | swapped below mode place fault => apply fault.agreement fits below place a
  | unmapped below mode place fault =>
      apply fault.agreement fits below _ a
      apply Entry.isResident_eq_false_of_place place (by simp)

/-- In paged mode the addresses of the frame of a page are words. -/
theorem Resolution.room {frame : Nat} (h : Resolution stores page s (.ok frame) s')
    (fits : c.maxPages ≤ pageLimit) (mode : c.mode = .paged) (a : s.1.Agreement) :
  frame * c.pageSize + c.pageSize < Word.bound
  := by
  cases h with
  | identity below mode' =>
      rw [mode] at mode'
      cases mode'
  | resident below mode' place => apply a.room page (lt_of_lt_of_le below fits) frame place
  | swapped below mode' place fault =>
      cases fault with
      | returned brought obtaining copied fit => apply room_of_copyPage copied
  | unmapped below mode' place fault =>
      cases fault with
      | mapped obtaining fit cleared => apply room_of_clearFrame cleared

theorem agreement_withdraw {pages : List Nat} (a : s.1.Agreement)
    (inside : ∀ page ∈ pages, page < pageLimit) :
  (pages.foldl (withdraw stores) s).1.Agreement
  := by
  induction pages generalizing s with
  | nil => apply a
  | cons page rest ih =>
      apply ih
      · apply a.clear (inside page List.mem_cons_self)
      · intro page mem
        apply inside page (List.mem_cons_of_mem _ mem)

theorem Progress.agreement {count : Nat} {mapped : List Nat} {answer : Except Error Unit}
    (h : Progress stores count page mapped s answer s') (fits : c.maxPages ≤ pageLimit)
    (range : page + count ≤ c.maxPages) (inside : ∀ page ∈ mapped, page < pageLimit)
    (a : s.1.Agreement) :
  s'.1.Agreement
  := by
  induction h with
  | done => apply a
  | skipped present rest ih => apply ih (by omega) inside a
  | undone absent mapping =>
      apply agreement_withdraw _ inside
      apply mapping.agreement fits (by omega) (Entry.isResident_eq_false_of_absent absent) a
  | @mapped count page frame mapped s s' s'' answer absent mapping rest ih =>
      apply ih (by omega)
      · intro other mem
        rcases List.mem_append.mp mem with mem | mem
        · apply inside other mem
        · rw [List.mem_singleton] at mem
          omega
      · apply mapping.agreement fits (by omega) (Entry.isResident_eq_false_of_absent absent) a

theorem RangeMapping.agreement {start stop : Nat} {answer : Except Error Unit}
    (h : RangeMapping stores start stop s answer s') (fits : c.maxPages ≤ pageLimit)
    (a : s.1.Agreement) :
  s'.1.Agreement
  := by
  cases h with
  | nothing none => apply a
  | beyond some above => apply a
  | identity some below mode => apply a
  | paged some below mode progress =>
      have le := pageOf_mono (c := c) (Nat.le_sub_one_of_lt some)
      apply progress.agreement fits (by omega) _ a
      intro page mem
      cases mem

/-- Only addresses of pages below the limit are mapped. -/
theorem RangeMapping.below {start stop : Nat} (h : RangeMapping stores start stop s (.ok ()) s')
    (lt : start < stop) :
  c.pageOf (stop - 1) < c.maxPages
  := by
  cases h with
  | nothing none => exact absurd lt (Nat.not_lt_of_le none)
  | identity some below mode => apply below
  | paged some below mode progress => apply below

/-- In paged mode only pages of which two have a word for their length are mapped. -/
theorem RangeMapping.narrow {start stop : Nat} (h : RangeMapping stores start stop s (.ok ()) s')
    (lt : start < stop) (mode : c.mode = .paged) (fits : c.maxPages ≤ pageLimit)
    (a : s.1.Agreement) :
  2 * c.pageSize < Word.bound
  := by
  cases h with
  | nothing none => exact absurd lt (Nat.not_lt_of_le none)
  | identity some below mode' =>
      rw [mode] at mode'
      cases mode'
  | paged some below mode progress =>
      have le := pageOf_mono (c := c) (Nat.le_sub_one_of_lt some)
      have first : c.pageOf start < pageLimit := by omega
      cases progress with
      | skipped present rest =>
          refine (a.present (c.pageOf start) first ?_).2.2
          intro eq
          rw [eq] at present
          cases present
      | mapped absent mapping rest =>
          cases mapping with
          | mapped obtaining fit cleared => apply narrow_of_room fit (room_of_clearFrame cleared)

theorem Release.agreement (h : Release stores s answer s') (a : s.1.Agreement) :
  s'.1.Agreement
  := by
  cases h with
  | identity mode => apply a
  | released mode => apply agreement_empty

end Kept

end VirtualMemory.Paging
