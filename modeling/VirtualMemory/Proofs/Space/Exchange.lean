import VirtualMemory.Proofs.Space.Course
import VirtualMemory.Proofs.Space.Failures

/-!
# What a page fault exchanges

A page fault that succeeds brings its page into a frame and changes no entry but that of its
page, unless the main store has no free frame left: then the oldest resident page, which is never
the page of the fault, leaves its frame to it and is swapped.  A page that is resident already is
found where it is, so the same fault once more changes nothing.  This holds in every setting,
whatever the stores answer.
-/

namespace VirtualMemory

open Backing

variable {c : Config} {ω : Type} [Backing ω] {stores : Stores} {page frame : Nat}

namespace Paging

variable {s s' : Paging c × ω} {p p' : Paging c}

/-- All pages but those listed have the entries that they had.  Numbers that differ by a multiple
of the page limit are of one page. -/
def SameEntriesBut (pages : List Nat) (p p' : Paging c) : Prop :=
  ∀ other, other % pageLimit ∉ pages → p'.entry other = p.entry other

/-- How a page that was not resident comes into a frame: it becomes the most recent resident page,
and the frame was free or that of the oldest one. -/
inductive Entrance (page frame : Nat) (s : Paging c × ω) (p' : Paging c) : Prop
  | free (acquired : (acquireFrame .ram s.2).1 = .ok frame)
      (listed : p'.residency.pages = s.1.residency.pages ++ [page])
      (same : SameEntriesBut [page] s.1 p')
  | exchanged {victim : Nat} {rest : List Nat}
      (exhausted : (acquireFrame .ram s.2).1 = .error .exhausted)
      (oldest : s.1.residency.pages = victim :: rest) (ne : victim ≠ page)
      (home : (s.1.entry victim).frame? = some frame)
      (swapped : (p'.entry victim).isSwapped = true)
      (listed : p'.residency.pages = rest ++ [page])
      (same : SameEntriesBut [page, victim] s.1 p')

omit [Backing ω] in
/-- A page that becomes resident changes its own entry only. -/
theorem sameEntriesBut_install {e : Entry} (hp : page < pageLimit) :
  SameEntriesBut [page] p (p.install page e)
  := by
  intro other ne
  rw [List.mem_singleton] at ne
  rw [install, entry_enlist, entry_setEntry_mod, Nat.mod_eq_of_lt hp, if_neg ne]

/-- The oldest page leaves its place in the list and its frame for a slot. -/
def swapOldest (p : Paging c) (victim : Nat) (rest : List Nat) (slot : Nat) : Paging c :=
  (⟨p.table, ⟨rest⟩⟩ : Paging c).setEntry victim (.ofSwap swapDevice slot)

/-- A frame that is found was free, or the main store has none and the oldest page gave up its
own. -/
theorem Obtaining.source (h : Obtaining stores s (.ok frame) s') :
  (acquireFrame .ram s.2).1 = .ok frame ∧ s'.1 = s.1 ∨
  (acquireFrame .ram s.2).1 = .error .exhausted ∧ ∃ victim rest slot,
    s.1.residency.pages = victim :: rest ∧ (s.1.entry victim).frame? = some frame ∧
    s'.1 = s.1.swapOldest victim rest slot
  := by
  cases h with
  | free brought acquired => exact .inl ⟨congrArg Prod.fst acquired, rfl⟩
  | full brought acquired eviction =>
      right
      cases eviction with
      | evicted brought' slotted oldest home copied =>
          exact ⟨congrArg Prod.fst acquired, _, _, _, oldest, home, rfl⟩

/-- With the frame that was found a page that is not resident comes in. -/
theorem Obtaining.entrance (h : Obtaining stores s (.ok frame) s') (fits : c.maxPages ≤ pageLimit)
    (a : s.1.Agreement) (hp : page < pageLimit) (absent : (s.1.entry page).isResident = false)
    {e : Entry} :
  Entrance page frame s (s'.1.install page e)
  := by
  rcases h.source with ⟨acquired, eq⟩ | ⟨exhausted, victim, rest, slot, oldest, home, eq⟩
  · rw [eq]
    exact .free acquired rfl (sameEntriesBut_install hp)
  · rw [eq]
    have hv : victim < pageLimit := lt_of_lt_of_le (a.oldest_lt oldest) fits
    have ne : victim ≠ page := by
      rintro rfl
      exact Bool.false_ne_true (absent.symm.trans (a.isResident_oldest fits oldest))
    have entry_eq (other : Nat) (other_ne : other % pageLimit ≠ page) :
        ((s.1.swapOldest victim rest slot).install page e).entry other =
          if other % pageLimit = victim then .ofSwap swapDevice slot else s.1.entry other
      := by
      rw [sameEntriesBut_install hp other (by simpa using other_ne), swapOldest,
        entry_setEntry_mod, Nat.mod_eq_of_lt hv]
      rfl
    apply Entrance.exchanged exhausted oldest ne home
    · rw [entry_eq victim (by rwa [Nat.mod_eq_of_lt hv]), if_pos (Nat.mod_eq_of_lt hv)]
      apply Entry.isSwapped_ofSwap
    · rfl
    · intro other mem
      rw [List.mem_cons, List.mem_singleton, not_or] at mem
      rw [entry_eq other mem.1, if_neg mem.2]

/-- What a fault that succeeds leaves behind. -/
structure Settled (page frame : Nat) (s s' : Paging c × ω) : Prop where
  below : page < c.maxPages
  home : (s'.1.entry page).frame? = some frame
  still : (s.1.entry page).isResident = true → s' = s
  entrance : (s.1.entry page).isResident = false → Entrance page frame s s'.1

omit [Backing ω] in
theorem frame?_install {e : Entry} (hp : page < pageLimit) (fit : Entry.resident? frame = some e) :
  ((p.install page e).entry page).frame? = some frame
  := by
  rw [install, entry_enlist, entry_setEntry hp hp, if_pos rfl, Entry.frame?_eq_some_iff]
  apply Entry.place?_resident? fit

/-- A page that is brought in was not resident. -/
theorem Resolution.settled (h : Resolution stores page s (.ok frame) s') (mode : c.mode = .paged)
    (fits : c.maxPages ≤ pageLimit) (a : s.1.Agreement) :
  Settled page frame s s'
  := by
  have hp : page < pageLimit := lt_of_lt_of_le h.below fits
  have entered {e : Entry} {t : Paging c × ω} {w : ω} (fit : Entry.resident? frame = some e)
      (obtaining : Obtaining stores s (.ok frame) t)
      (absent : (s.1.entry page).isResident = false) :
      Settled page frame s (t.1.install page e, w)
    := by
    use h.below
    · apply frame?_install hp fit
    · intro resident
      exact absurd (absent.symm.trans resident) Bool.false_ne_true
    · intro _
      apply obtaining.entrance fits a hp absent
  cases h with
  | identity below mode' =>
      rw [mode] at mode'
      cases mode'
  | resident below mode place =>
      use below
      · apply Entry.frame?_eq_some_iff.mpr place
      · intro _
        rfl
      · intro absent
        have resident := Entry.isResident_iff.mpr ⟨frame, place⟩
        exact absurd (absent.symm.trans resident) Bool.false_ne_true
  | @swapped _ slot _ below mode place fault =>
      cases fault with
      | returned brought obtaining copied fit =>
          apply entered fit obtaining
          apply Entry.isResident_eq_false_of_place place (by simp)
  | unmapped below mode place fault =>
      cases fault with
      | mapped obtaining fit cleared =>
          apply entered fit obtaining
          apply Entry.isResident_eq_false_of_place place (by simp)

/-- A page that is resident is found in its frame, whatever stores are brought. -/
theorem run_resolve_of_frame (mode : c.mode = .paged) (below : page < c.maxPages)
    (home : (s.1.entry page).frame? = some frame) :
  resolve stores page s = ⟨.ok frame, s, []⟩
  := by
  have place := Entry.frame?_eq_some_iff.mp home
  rw [Entry.place?] at place
  rcases state : (s.1.entry page).state with - | ⟨found, dirty⟩ | ⟨device, slot⟩
  · simp [state] at place
  · obtain rfl : found = frame := by simpa [state] using place
    simp [resolve, checkPage, lookEntry, below, mode, Op.run_bind, state]
  · simp [state] at place

end Paging

namespace Space

/-- In every setting a fault that succeeds finds its page resident, or makes it the most recent
resident page and changes no entry of another page but that of the oldest one; afterwards the
page is found without any change. -/
theorem Course.exchange (valid : c.validate = .ok ()) (mode : c.mode = .paged)
    {setting : Setting ω} {s : Space c × ω} (course : Course setting s) {t : Paging c × ω}
    {events : List Event}
    (ok : Paging.resolve stores page (s.1.paging, s.2) = ⟨.ok frame, t, events⟩) :
  (t.1.entry page).frame? = some frame ∧
  ((s.1.paging.entry page).isResident = true → t = (s.1.paging, s.2)) ∧
  ((s.1.paging.entry page).isResident = false →
    Paging.Entrance page frame (s.1.paging, s.2) t.1) ∧
  ∀ (again : Stores) (w : ω), Paging.resolve again page (t.1, w) = ⟨.ok frame, (t.1, w), []⟩
  := by
  have fits : c.maxPages ≤ pageLimit := (Config.meets_of_validate valid .maxPages).2
  have ends : Paging.Resolution stores page (s.1.paging, s.2) _ _ := Paging.resolve_ends
  simp only [ok] at ends
  have settled := ends.settled mode fits (course.agreement fits)
  use settled.home, settled.still, settled.entrance
  intro again w
  exact Paging.run_resolve_of_frame (s := (t.1, w)) mode settled.below settled.home

/-- The small space with one frame and one slot, after a fault of its first page. -/
def onePage : Space Config.small × Memories :=
  (onPaging (Paging.resolve {} 0) (new Config.small, crampedMemories)).state

/-- The second page gets the frame of the first one, which is swapped, and is then found there
without any store. -/
theorem exchange_onePage :
  Config.small.validate = .ok () ∧ Config.small.mode = .paged ∧ Course .any onePage ∧
    ∃ t events,
      Paging.resolve {} 1 (onePage.1.paging, onePage.2) = ⟨.ok 1, t, events⟩ ∧
      (onePage.1.paging.entry 1).isResident = false ∧
      (acquireFrame .ram onePage.2).1 = .error .exhausted ∧
      (t.1.entry 1).frame? = some 1 ∧
      Paging.Entrance 1 1 (onePage.1.paging, onePage.2) t.1 ∧
      Paging.resolve ⟨false, false⟩ 1 t = ⟨.ok 1, t, []⟩
  := by
  have valid : Config.small.validate = .ok () := by decide
  have course : Course .any onePage := by
    have first : Course .any (new Config.small, crampedMemories) := .new trivial
    have brought : (Setting.any : Setting Memories).brings {} := trivial
    exact first.fault brought 0
  have answer : (Paging.resolve {} 1 (onePage.1.paging, onePage.2)).answer = .ok 1 := by
    decide +kernel
  have absent : (onePage.1.paging.entry 1).isResident = false := by decide +kernel
  obtain ⟨t, events, ok⟩ : ∃ t events,
      Paging.resolve {} 1 (onePage.1.paging, onePage.2) = ⟨.ok 1, t, events⟩
    := by
    generalize Paging.resolve {} 1 (onePage.1.paging, onePage.2) = outcome at answer ⊢
    rcases outcome with ⟨a, t, events⟩
    cases answer
    use t, events
  obtain ⟨home, -, entrance, again⟩ := course.exchange valid rfl ok
  use valid, rfl, course, t, events, ok, absent
  constructor
  · decide +kernel
  use home, entrance absent
  apply again ⟨false, false⟩ t.2

end Space

end VirtualMemory
