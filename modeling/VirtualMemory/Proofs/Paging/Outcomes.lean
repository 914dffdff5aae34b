import VirtualMemory.Paging.Range
import VirtualMemory.Proofs.Operation.Ends
import VirtualMemory.Proofs.Page.Place

/-!
# How page faults end

For each operation on pages a relation lists the ways in which it can end: with what answer and
in which state, and what the stores answered on the way.  Nothing is assumed about the stores.
Statements about these operations are proved by cases on the relations, without a look at the
operations.
-/

namespace VirtualMemory.Paging

open Backing

variable {c : Config} {ω : Type} {stores : Stores} {s s' : Paging c × ω} {page slot : Nat}

/-! ### Looking at the paging state -/

/-- The oldest resident page is taken out of the list, if there is one. -/
theorem ends_takeVictim {p : Paging c} {Q : Nat → Paging c → Prop} {R : Error → Paging c → Prop} :
  takeVictim.Ends p Q R ↔ match p.residency.pages with
    | [] => R .noVictim p
    | victim :: rest => Q victim { p with residency := ⟨rest⟩ }
  := by
  obtain ⟨table, ⟨pages⟩⟩ := p
  cases pages with
  | nil => rfl
  | cons victim rest => rfl

theorem ends_frameOf {Q : Nat → Paging c × ω → Prop} {R : Error → Paging c × ω → Prop} :
  (frameOf page).Ends s Q R ↔ match (s.1.entry page).frame? with
    | some frame => Q frame s
    | none => R .mappingFailed s
  := by
  simp only [frameOf, lookEntry, Op.ends_bind, Op.ends_gets]
  cases (s.1.entry page).frame? with
  | none => rfl
  | some frame => rfl

theorem ends_checkPage {Q : Unit → Paging c × ω → Prop} {R : Error → Paging c × ω → Prop} :
  (checkPage c page).Ends s Q R ↔
    (page < c.maxPages → Q () s) ∧ (c.maxPages ≤ page → R (.pageOutOfRange page) s)
  := by
  rw [checkPage]
  split
  · next below => simp [below]
  · next above => simp [above, Nat.le_of_not_lt above]

/-- Only the entry of a resident page is marked. -/
theorem run_markDirty :
  markDirty page s =
    ⟨.ok (), if (s.1.entry page).isResident then
      (s.1.setEntry page (s.1.entry page).withDirty, s.2) else s, []⟩
  := by
  simp only [markDirty, lookEntry, Op.run_bind, Op.run_gets, List.nil_append]
  split
  · rfl
  · rfl

/-- The pages after a byte of a page is written: the page becomes dirty if it is resident. -/
def afterWrite (p : Paging c) (page : Nat) : Paging c :=
  if (p.entry page).isResident then p.setEntry page (p.entry page).withDirty else p

theorem state_markDirty :
  (markDirty page s).state = (s.1.afterWrite page, s.2)
  := by
  rw [run_markDirty, afterWrite]
  split
  · rfl
  · rfl

theorem ends_markDirty {Q : Unit → Paging c × ω → Prop} {R : Error → Paging c × ω → Prop} :
  (markDirty page).Ends s Q R ↔ Q () (markDirty page s).state
  := by
  rw [Op.Ends, run_markDirty]

/-! ### Eviction -/

variable [Backing ω]

/-- The ways in which the eviction of a page ends. -/
inductive Eviction (stores : Stores) :
    Paging c × ω → Except Error Nat → Paging c × ω → Prop
  | noStore {s : Paging c × ω} (missing : stores.swap = false) :
    Eviction stores s (.error .invalidContext) s
  | noSlot {p : Paging c} {w w' : ω} {e : StoreError} (brought : stores.swap = true)
      (acquired : acquireFrame .swap w = (.error e, w')) :
    Eviction stores (p, w) (.error .mappingFailed) (p, w')
  | noVictim {p : Paging c} {w w' : ω} {slot : Nat} (brought : stores.swap = true)
      (acquired : acquireFrame .swap w = (.ok slot, w')) (idle : p.residency.pages = []) :
    Eviction stores (p, w) (.error .noVictim) (p, releaseFrame .swap slot w')
  | homeless {p : Paging c} {w w' : ω} {slot victim : Nat} {rest : List Nat}
      (brought : stores.swap = true) (acquired : acquireFrame .swap w = (.ok slot, w'))
      (oldest : p.residency.pages = victim :: rest) (home : (p.entry victim).frame? = none) :
    Eviction stores (p, w) (.error .mappingFailed)
      ({ p with residency := ⟨rest⟩ }, releaseFrame .swap slot w')
  | uncopied {p : Paging c} {w w' w'' : ω} {slot victim frame : Nat} {rest : List Nat}
      {e : StoreError} (brought : stores.swap = true)
      (acquired : acquireFrame .swap w = (.ok slot, w'))
      (oldest : p.residency.pages = victim :: rest)
      (home : (p.entry victim).frame? = some frame)
      (copied : copyPage c.pageSize .ram frame .swap slot w' = (.error e, w'')) :
    Eviction stores (p, w) (.error (.store e))
      ({ p with residency := ⟨rest ++ [victim]⟩ }, releaseFrame .swap slot w'')
  | evicted {p : Paging c} {w w' w'' : ω} {slot victim frame : Nat} {rest : List Nat}
      (brought : stores.swap = true) (acquired : acquireFrame .swap w = (.ok slot, w'))
      (oldest : p.residency.pages = victim :: rest)
      (home : (p.entry victim).frame? = some frame)
      (copied : copyPage c.pageSize .ram frame .swap slot w' = (.ok (), w'')) :
    Eviction stores (p, w) (.ok frame)
      (({ p with residency := ⟨rest⟩ } : Paging c).setEntry victim (.ofSwap swapDevice slot), w'')

theorem evict_ends :
  Eviction stores s (evict stores s).answer (evict stores s).state
  := by
  obtain ⟨p, w⟩ := s
  apply Op.ends_iff_answer.mp
  simp only [evict, Op.acquire, findVictim, update, Op.ends_bind, Op.ends_require,
    Op.ends_mapError, Op.ends_access, Op.ends_onFailure, Op.ends_onFirst, Op.ends_release,
    Op.ends_modify, Op.ends_emit, Op.ends_pure, ends_takeVictim, ends_frameOf]
  constructor
  · intro brought
    rcases acquired : acquireFrame (ω := ω) .swap w with ⟨e | slot, w'⟩
    · apply Eviction.noSlot brought acquired
    · rcases oldest : p.residency.pages with - | ⟨victim, rest⟩
      · apply Eviction.noVictim brought acquired oldest
      · dsimp only
        rcases home : (p.entry victim).frame? with - | frame
        · have home' : (Paging.entry (c := c) { p with residency := ⟨rest⟩ } victim).frame? = none
            := home
          rw [home']
          apply Eviction.homeless brought acquired oldest home
        · have home' : (Paging.entry (c := c) { p with residency := ⟨rest⟩ } victim).frame?
              = some frame
            := home
          rw [home']
          rcases copied : copyPage c.pageSize .ram frame .swap slot w' with ⟨e | u, w''⟩
          · simp only [copied]
            apply Eviction.uncopied brought acquired oldest home copied
          · simp only [copied]
            apply Eviction.evicted brought acquired oldest home copied
  · intro missing
    apply Eviction.noStore missing

/-! ### Frames -/

/-- The ways in which the search for a frame ends. -/
inductive Obtaining (stores : Stores) :
    Paging c × ω → Except Error Nat → Paging c × ω → Prop
  | noStore {s : Paging c × ω} (missing : stores.ram = false) :
    Obtaining stores s (.error .invalidContext) s
  | free {p : Paging c} {w w' : ω} {frame : Nat} (brought : stores.ram = true)
      (acquired : acquireFrame .ram w = (.ok frame, w')) :
    Obtaining stores (p, w) (.ok frame) (p, w')
  | refused {p : Paging c} {w w' : ω} {e : StoreError} (brought : stores.ram = true)
      (acquired : acquireFrame .ram w = (.error e, w')) (other : e ≠ .exhausted) :
    Obtaining stores (p, w) (.error (.store e)) (p, w')
  | full {p : Paging c} {w w' : ω} {answer : Except Error Nat} {s' : Paging c × ω}
      (brought : stores.ram = true) (acquired : acquireFrame .ram w = (.error .exhausted, w'))
      (eviction : Eviction stores (p, w') answer s') :
    Obtaining stores (p, w) answer s'

theorem obtainFrame_ends :
  Obtaining stores s (obtainFrame stores s).answer (obtainFrame stores s).state
  := by
  obtain ⟨p, w⟩ := s
  apply Op.ends_iff_answer.mp
  simp only [obtainFrame, Op.acquire, Op.ends_bind, Op.ends_require, Op.ends_attempt,
    Op.ends_access]
  constructor
  · intro brought
    rcases acquired : acquireFrame (ω := ω) .ram w with ⟨e | frame, w'⟩
    · cases e with
      | exhausted =>
          apply Op.ends_iff_answer.mpr
          apply Obtaining.full brought acquired evict_ends
      | outOfRange address =>
          apply Obtaining.refused brought acquired
          simp
    · apply Obtaining.free brought acquired
  · intro missing
    apply Obtaining.noStore missing

/-! ### Mapping and swapping in -/

/-- The ways in which the mapping of a page without contents ends. -/
inductive Mapping (stores : Stores) (page : Nat) :
    Paging c × ω → Except Error Nat → Paging c × ω → Prop
  | noFrame {s s' : Paging c × ω} {e : Error} (obtaining : Obtaining stores s (.error e) s') :
    Mapping stores page s (.error e) s'
  | rejected {s : Paging c × ω} {p : Paging c} {w : ω} {frame : Nat}
      (obtaining : Obtaining stores s (.ok frame) (p, w)) (unfit : Entry.resident? frame = none) :
    Mapping stores page s (.error .mappingFailed) (p, releaseFrame .ram frame w)
  | uncleared {s : Paging c × ω} {p : Paging c} {w w' : ω} {frame : Nat} {e : StoreError}
      (obtaining : Obtaining stores s (.ok frame) (p, w))
      (cleared : clearFrame c.pageSize .ram frame w = (.error e, w')) :
    Mapping stores page s (.error (.store e)) (p, releaseFrame .ram frame w')
  | mapped {s : Paging c × ω} {p : Paging c} {w w' : ω} {frame : Nat} {entry : Entry}
      (obtaining : Obtaining stores s (.ok frame) (p, w))
      (fit : Entry.resident? frame = some entry)
      (cleared : clearFrame c.pageSize .ram frame w = (.ok (), w')) :
    Mapping stores page s (.ok frame) (p.install page entry, w')

theorem mapPage_ends :
  Mapping stores page s (mapPage stores page s).answer (mapPage stores page s).state
  := by
  apply Op.ends_iff_answer.mp
  simp only [mapPage, Op.ends_bind, Op.ends_require]
  constructor
  · intro brought
    have ends : Obtaining stores s _ _ := obtainFrame_ends
    apply (Op.ends_iff_answer.mpr ends).mono
    · rintro frame ⟨p, w⟩ obtaining
      rcases fit : Entry.resident? frame with - | entry
      · apply Mapping.rejected obtaining fit
      · simp only [update, Op.ends_bind, Op.ends_onFailure, Op.ends_access, Op.ends_release,
          Op.ends_onFirst, Op.ends_modify, Op.ends_pure]
        rcases cleared : clearFrame c.pageSize .ram frame w with ⟨e | u, w'⟩
        · apply Mapping.uncleared obtaining cleared
        · apply Mapping.mapped obtaining fit cleared
    · intro e s' obtaining
      apply Mapping.noFrame obtaining
  · intro missing
    apply Mapping.noFrame (.noStore missing)

/-- The ways in which the return of a page from its slot ends. -/
inductive Return (stores : Stores) (page slot : Nat) :
    Paging c × ω → Except Error Nat → Paging c × ω → Prop
  | noStore {s : Paging c × ω} (missing : stores.swap = false) :
    Return stores page slot s (.error .invalidContext) s
  | noFrame {s s' : Paging c × ω} {e : Error} (obtaining : Obtaining stores s (.error e) s') :
    Return stores page slot s (.error e) s'
  | uncopied {s : Paging c × ω} {p : Paging c} {w w' : ω} {frame : Nat} {e : StoreError}
      (brought : stores.swap = true) (obtaining : Obtaining stores s (.ok frame) (p, w))
      (copied : copyPage c.pageSize .swap slot .ram frame w = (.error e, w')) :
    Return stores page slot s (.error (.store e)) (p, releaseFrame .ram frame w')
  | rejected {s : Paging c × ω} {p : Paging c} {w w' : ω} {frame : Nat}
      (brought : stores.swap = true) (obtaining : Obtaining stores s (.ok frame) (p, w))
      (copied : copyPage c.pageSize .swap slot .ram frame w = (.ok (), w'))
      (unfit : Entry.resident? frame = none) :
    Return stores page slot s (.error .mappingFailed) (p, releaseFrame .swap slot w')
  | returned {s : Paging c × ω} {p : Paging c} {w w' : ω} {frame : Nat} {entry : Entry}
      (brought : stores.swap = true) (obtaining : Obtaining stores s (.ok frame) (p, w))
      (copied : copyPage c.pageSize .swap slot .ram frame w = (.ok (), w'))
      (fit : Entry.resident? frame = some entry) :
    Return stores page slot s (.ok frame) (p.install page entry, releaseFrame .swap slot w')

theorem swapIn_ends :
  Return stores page slot s (swapIn stores page slot s).answer (swapIn stores page slot s).state
  := by
  apply Op.ends_iff_answer.mp
  simp only [swapIn, Op.ends_bind, Op.ends_require]
  constructor
  · intro brought_ram
    constructor
    · intro brought
      have ends : Obtaining stores s _ _ := obtainFrame_ends
      apply (Op.ends_iff_answer.mpr ends).mono
      · rintro frame ⟨p, w⟩ obtaining
        simp only [Op.ends_onFailure, Op.ends_access, Op.ends_release]
        rcases copied : copyPage c.pageSize .swap slot .ram frame w with ⟨e | u, w'⟩
        · apply Return.uncopied brought obtaining copied
        · rcases fit : Entry.resident? frame with - | entry
          · apply Return.rejected brought obtaining copied fit
          · apply Return.returned brought obtaining copied fit
      · intro e s' obtaining
        apply Return.noFrame obtaining
    · intro missing
      apply Return.noStore missing
  · intro missing
    apply Return.noFrame (.noStore missing)

/-! ### Faults -/

/-- The ways in which a page fault ends. -/
inductive Resolution (stores : Stores) (page : Nat) :
    Paging c × ω → Except Error Nat → Paging c × ω → Prop
  | beyond {s : Paging c × ω} (above : c.maxPages ≤ page) :
    Resolution stores page s (.error (.pageOutOfRange page)) s
  | identity {s : Paging c × ω} (below : page < c.maxPages) (mode : c.mode = .identity) :
    Resolution stores page s (.ok page) s
  | resident {s : Paging c × ω} {frame : Nat} (below : page < c.maxPages)
      (mode : c.mode = .paged) (place : (s.1.entry page).place? = some (.ram, frame)) :
    Resolution stores page s (.ok frame) s
  | swapped {s s' : Paging c × ω} {slot : Nat} {answer : Except Error Nat}
      (below : page < c.maxPages) (mode : c.mode = .paged)
      (place : (s.1.entry page).place? = some (.swap, slot))
      (fault : Return stores page slot s answer s') :
    Resolution stores page s answer s'
  | unmapped {s s' : Paging c × ω} {answer : Except Error Nat} (below : page < c.maxPages)
      (mode : c.mode = .paged) (place : (s.1.entry page).place? = none)
      (fault : Mapping stores page s answer s') :
    Resolution stores page s answer s'

theorem resolve_ends :
  Resolution stores page s (resolve stores page s).answer (resolve stores page s).state
  := by
  apply Op.ends_iff_answer.mp
  simp only [resolve, Op.ends_bind, ends_checkPage]
  constructor
  · intro below
    rcases mode : c.mode with - | -
    · simp only [lookEntry, Op.ends_bind, Op.ends_gets]
      rcases state : (s.1.entry page).state with - | ⟨frame, dirty⟩ | ⟨device, slot⟩
      · apply Op.ends_iff_answer.mpr
        apply Resolution.unmapped below mode _ mapPage_ends
        rw [Entry.place?, state]
      · apply Resolution.resident below mode
        rw [Entry.place?, state]
      · apply Op.ends_iff_answer.mpr
        apply Resolution.swapped below mode _ swapIn_ends
        rw [Entry.place?, state]
    · apply Resolution.identity below mode
  · intro above
    apply Resolution.beyond above

/-- Only pages below the limit are resolved. -/
theorem Resolution.below {frame : Nat} (h : Resolution stores page s (.ok frame) s') :
  page < c.maxPages
  := by
  cases h with
  | identity below mode => apply below
  | resident below mode place => apply below
  | swapped below mode place fault => apply below
  | unmapped below mode place fault => apply below

/-- In identity mode a page is in the frame of the same number, and nothing happens. -/
theorem Resolution.of_identity {answer : Except Error Nat}
    (h : Resolution stores page s answer s') (mode : c.mode = .identity) :
  s' = s ∧ ∀ frame, answer = .ok frame → frame = page
  := by
  have not_paged : c.mode ≠ .paged := by
    rw [mode]
    rintro ⟨⟩
  cases h with
  | beyond above =>
      constructor
      · rfl
      · rintro frame ⟨⟩
  | identity below mode' =>
      constructor
      · rfl
      · rintro frame ⟨⟩
        rfl
  | resident below mode' place => exact absurd mode' not_paged
  | swapped below mode' place fault => exact absurd mode' not_paged
  | unmapped below mode' place fault => exact absurd mode' not_paged

/-! ### Giving pages back -/

/-- The world after a place is given back to its store, if the caller brings the store. -/
def giveBack (stores : Stores) (x : Option Place) (w : ω) : ω :=
  match x with
  | none => w
  | some (device, frame) => if stores.has device then releaseFrame device frame w else w

theorem run_releaseEntry {e : Entry} :
  releaseEntry stores e s = ⟨.ok (), (s.1, giveBack stores e.place? s.2), []⟩
  := by
  obtain ⟨ram, swap⟩ := stores
  rw [releaseEntry, Entry.place?]
  rcases e.state with - | ⟨frame, dirty⟩ | ⟨device, slot⟩
  · rfl
  · cases ram with
    | true => rfl
    | false => rfl
  · cases swap with
    | true => rfl
    | false => rfl

/-- The state after a page is unmapped. -/
def withdraw (stores : Stores) (s : Paging c × ω) (page : Nat) : Paging c × ω :=
  ((s.1.clearEntry page).unlist page, giveBack stores (s.1.entry page).place? s.2)

theorem run_unmapPage :
  unmapPage stores page s = ⟨.ok (), withdraw stores s page, []⟩
  := by
  obtain ⟨p, w⟩ := s
  simp only [unmapPage, lookEntry, update]
  simp only [Op.run_bind, Op.run_gets, Op.onFirst, Op.run_modify, run_releaseEntry, List.nil_append]
  rfl

theorem run_unmapPages {pages : List Nat} :
  unmapPages stores pages s = ⟨.ok (), pages.foldl (withdraw stores) s, []⟩
  := by
  induction pages generalizing s with
  | nil => rfl
  | cons page rest ih =>
      simp only [unmapPages, Op.run_bind, run_unmapPage, ih, List.nil_append, List.foldl_cons]

theorem run_releaseEntries {entries : List (Nat × Entry)} :
  releaseEntries stores entries s =
    ⟨.ok (), (s.1, entries.foldl (fun w e => giveBack stores e.2.place? w) s.2), []⟩
  := by
  induction entries generalizing s with
  | nil => rfl
  | cons e rest ih =>
      simp only [releaseEntries, Op.run_bind, run_releaseEntry, ih, List.nil_append,
        List.foldl_cons]

/-- The ways in which the release of all pages ends. -/
inductive Release (stores : Stores) : Paging c × ω → Except Error Nat → Paging c × ω → Prop
  | identity {s : Paging c × ω} (mode : c.mode = .identity) : Release stores s (.ok 0) s
  | released {p : Paging c} {w : ω} (mode : c.mode = .paged) :
    Release stores (p, w) (.ok p.table.entries.length)
      (empty c, p.table.entries.foldl (fun w e => giveBack stores e.2.place? w) w)

theorem releaseAll_ends :
  Release stores s (releaseAll stores s).answer (releaseAll stores s).state
  := by
  obtain ⟨p, w⟩ := s
  rw [releaseAll]
  rcases mode : c.mode with - | -
  · simp only [update, Op.run_bind, Op.run_gets, run_releaseEntries, Op.onFirst, Op.run_modify]
    apply Release.released mode
  · apply Release.identity mode

/-! ### Ranges of pages -/

/-- The ways in which the mapping of a range of pages ends, where `mapped` are the pages of the
range that were mapped already. -/
inductive Progress (stores : Stores) :
    (count page : Nat) → (mapped : List Nat) →
      Paging c × ω → Except Error Unit → Paging c × ω → Prop
  | done {page : Nat} {mapped : List Nat} {s : Paging c × ω} :
    Progress stores 0 page mapped s (.ok ()) s
  | skipped {count page : Nat} {mapped : List Nat} {s s' : Paging c × ω}
      {answer : Except Error Unit} (present : (s.1.entry page).isPresent = true)
      (rest : Progress stores count (page + 1) mapped s answer s') :
    Progress stores (count + 1) page mapped s answer s'
  | undone {count page : Nat} {mapped : List Nat} {s s' : Paging c × ω} {e : Error}
      (absent : (s.1.entry page).isPresent = false)
      (mapping : Mapping stores page s (.error e) s') :
    Progress stores (count + 1) page mapped s (.error e) (mapped.foldl (withdraw stores) s')
  | mapped {count page frame : Nat} {mapped : List Nat} {s s' s'' : Paging c × ω}
      {answer : Except Error Unit} (absent : (s.1.entry page).isPresent = false)
      (mapping : Mapping stores page s (.ok frame) s')
      (rest : Progress stores count (page + 1) (mapped ++ [page]) s' answer s'') :
    Progress stores (count + 1) page mapped s answer s''

theorem mapFrom_ends {count page : Nat} {mapped : List Nat} :
  Progress stores count page mapped s (mapFrom stores count page mapped s).answer
    (mapFrom stores count page mapped s).state
  := by
  induction count generalizing page mapped s with
  | zero => apply Progress.done
  | succ count ih =>
      apply Op.ends_iff_answer.mp
      simp only [mapFrom, lookEntry, Op.ends_bind, Op.ends_gets]
      rcases present : (s.1.entry page).isPresent with - | -
      · simp only [Bool.false_eq_true, if_false, Op.ends_bind, Op.ends_onFailure, Op.ends_emit]
        have ends : Mapping stores page s _ _ := mapPage_ends
        apply (Op.ends_iff_answer.mpr ends).mono
        · intro frame s' mapping
          apply Op.ends_iff_answer.mpr
          apply Progress.mapped present mapping ih
        · intro e s' mapping
          rw [Op.Ends, run_unmapPages]
          apply Progress.undone present mapping
      · simp only [if_true]
        apply Op.ends_iff_answer.mpr
        apply Progress.skipped present ih

/-- The ways in which the mapping of a range of pages ends. -/
inductive PagesMapping (stores : Stores) (first count : Nat) :
    Paging c × ω → Except Error Unit → Paging c × ω → Prop
  | nothing {s : Paging c × ω} (none : count = 0) : PagesMapping stores first count s (.ok ()) s
  | beyond {s : Paging c × ω} (some : count ≠ 0) (above : c.maxPages ≤ first + count - 1) :
    PagesMapping stores first count s (.error (.pageOutOfRange (first + count - 1))) s
  | identity {s : Paging c × ω} (some : count ≠ 0) (below : first + count - 1 < c.maxPages)
      (mode : c.mode = .identity) :
    PagesMapping stores first count s (.ok ()) s
  | paged {s s' : Paging c × ω} {answer : Except Error Unit} (some : count ≠ 0)
      (below : first + count - 1 < c.maxPages) (mode : c.mode = .paged)
      (progress : Progress stores count first [] s answer s') :
    PagesMapping stores first count s answer s'

theorem mapRange_ends {first count : Nat} :
  PagesMapping stores first count s (mapRange stores first count s).answer
    (mapRange stores first count s).state
  := by
  apply Op.ends_iff_answer.mp
  rw [mapRange]
  split
  · next none => apply PagesMapping.nothing none
  · next some =>
      rw [Op.ends_bind, ends_checkPage]
      constructor
      · intro below
        rcases mode : c.mode with - | -
        · apply Op.ends_iff_answer.mpr
          apply PagesMapping.paged some below mode mapFrom_ends
        · apply PagesMapping.identity some below mode
      · intro above
        apply PagesMapping.beyond some above

/-- The ways in which the mapping of a range of addresses ends. -/
inductive RangeMapping (stores : Stores) (start stop : Nat) :
    Paging c × ω → Except Error Unit → Paging c × ω → Prop
  | nothing {s : Paging c × ω} (none : stop ≤ start) : RangeMapping stores start stop s (.ok ()) s
  | beyond {s : Paging c × ω} (some : start < stop) (above : c.maxPages ≤ c.pageOf (stop - 1)) :
    RangeMapping stores start stop s (.error (.pageOutOfRange (c.pageOf (stop - 1)))) s
  | identity {s : Paging c × ω} (some : start < stop) (below : c.pageOf (stop - 1) < c.maxPages)
      (mode : c.mode = .identity) :
    RangeMapping stores start stop s (.ok ()) s
  | paged {s s' : Paging c × ω} {answer : Except Error Unit} (some : start < stop)
      (below : c.pageOf (stop - 1) < c.maxPages) (mode : c.mode = .paged)
      (progress : Progress stores (c.pageOf (stop - 1) - c.pageOf start + 1) (c.pageOf start) []
        s answer s') :
    RangeMapping stores start stop s answer s'

theorem pageOf_mono {a b : Nat} (h : a ≤ b) :
  c.pageOf a ≤ c.pageOf b
  := by
  rw [Config.pageOf, Config.pageOf, Word.shiftRight_eq_div, Word.shiftRight_eq_div]
  apply Nat.div_le_div_right h

/-- The addresses of a range are those of the pages from the first address to the last. -/
theorem PagesMapping.addresses {start stop : Nat} {answer : Except Error Unit} (lt : start < stop)
    (h : PagesMapping stores (c.pageOf start) (c.pageOf (stop - 1) - c.pageOf start + 1) s
      answer s') :
  RangeMapping stores start stop s answer s'
  := by
  have last : c.pageOf start + (c.pageOf (stop - 1) - c.pageOf start + 1) - 1
      = c.pageOf (stop - 1)
    := by
    have := pageOf_mono (c := c) (Nat.le_sub_one_of_lt lt)
    omega
  cases h with
  | nothing none => cases none
  | beyond some above =>
      rw [last] at above ⊢
      apply RangeMapping.beyond lt above
  | identity some below mode =>
      rw [last] at below
      apply RangeMapping.identity lt below mode
  | paged some below mode progress =>
      rw [last] at below
      apply RangeMapping.paged lt below mode progress

theorem mapAddresses_ends {start stop : Nat} :
  RangeMapping stores start stop s (mapAddresses stores start stop s).answer
    (mapAddresses stores start stop s).state
  := by
  rw [mapAddresses]
  split
  · next none => apply RangeMapping.nothing none
  · next some => apply mapRange_ends.addresses (Nat.lt_of_not_le some)

end VirtualMemory.Paging
