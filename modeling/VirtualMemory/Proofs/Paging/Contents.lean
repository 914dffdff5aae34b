import VirtualMemory.Proofs.Paging.Agreement
import VirtualMemory.Proofs.Paging.Custody
import VirtualMemory.Proofs.Store.Backed

/-!
# Page faults keep contents

On stores that are backed by memories, no operation on pages loses a frame or a slot, and none
changes the contents of a page, whether it succeeds or fails: a page that is evicted has its
bytes in its slot, a page that comes back has them in its frame, a page that is mapped starts
with zeros, and pages that are unmapped after a failure had only zeros.  Pages are unmapped for
good by the release of all of them; what they hold in a store that the caller does not bring is
lost.
-/

namespace VirtualMemory.Paging

open Backing MemoryBacked

section Places

variable {c : Config} {p : Paging c} {page other : Nat} {e : Entry}

/-- The place of each page of a paging state. -/
def places (p : Paging c) (page : Nat) : Option Place :=
  if page < pageLimit then (p.entry page).place? else none

theorem places_of_lt (hp : page < pageLimit) :
  p.places page = (p.entry page).place?
  := if_pos hp

theorem places_setEntry (hp : page < pageLimit) :
  (p.setEntry page e).places = Function.update p.places page e.place?
  := by
  funext other
  rw [Function.update_apply, places, places]
  by_cases ho : other < pageLimit
  · rw [if_pos ho, if_pos ho, entry_setEntry hp ho, apply_ite Entry.place?]
  · rw [if_neg ho, if_neg ho, if_neg]
    rintro rfl
    apply ho hp

theorem places_install (hp : page < pageLimit) :
  (p.install page e).places = Function.update p.places page e.place?
  := places_setEntry hp

theorem places_withdraw (hp : page < pageLimit) :
  ((p.clearEntry page).unlist page).places = Function.update p.places page none
  := places_setEntry hp

/-- The dirty flag does not move a page. -/
theorem places_setDirty (hp : page < pageLimit) :
  (p.setEntry page (p.entry page).withDirty).places = p.places
  := by
  rw [places_setEntry hp, Entry.place?_withDirty, ← places_of_lt hp, Function.update_eq_self]

/-- The oldest page is in its frame. -/
theorem Agreement.place_oldest (h : p.Agreement) (fits : c.maxPages ≤ pageLimit) {victim : Nat}
    {rest : List Nat} (oldest : p.residency.pages = victim :: rest) {frame : Nat}
    (home : (p.entry victim).frame? = some frame) :
  p.places victim = some (.ram, frame)
  := by
  rw [places_of_lt (lt_of_lt_of_le (h.oldest_lt oldest) fits)]
  apply Entry.frame?_eq_some_iff.mp home

theorem places_empty :
  (empty c).places = fun _ => none
  := by
  funext page
  rw [places, entry_empty, Entry.place?_empty, ite_self]

end Places

variable {c : Config} {ω : Type} [MemoryBacked ω] {out : Set Place} {stores : Stores}
variable {p : Paging c} {w w' : ω} {s s' s'' : Paging c × ω} {page frame slot : Nat}
variable {device : Device} {e : StoreError} {answer : Except Error Nat}

/-- Page table and resident pages agree, and each frame has one holder. -/
structure Guarded (out : Set Place) (s : Paging c × ω) : Prop where
  agreement : s.1.Agreement
  custody : Custody out s.1.places c.pageSize (memory s.2)

/-- The contents of all pages and the bytes of the places outside are the same. -/
def Keeps (out : Set Place) (s s' : Paging c × ω) : Prop :=
  Kept out c.pageSize s.1.places s'.1.places (memory s.2) (memory s'.2)

theorem Keeps.refl :
  Keeps out s s
  := Kept.refl

/-- In a state that did not change nothing is lost. -/
theorem Guarded.unmoved (g : Guarded out s) :
  Guarded out s ∧ Keeps out s s
  := by
  use g
  apply Keeps.refl

theorem Keeps.trans (h : Keeps out s s') (h' : Keeps out s' s'') :
  Keeps out s s''
  := Kept.trans h h'

theorem Keeps.of_memory (eq : memory w' = memory w) :
  Keeps out (p, w) (p, w')
  := by
  rw [Keeps, eq]
  apply Kept.refl

namespace Guarded

theorem of_memory (g : Guarded out (p, w)) (eq : memory w' = memory w) :
  Guarded out (p, w')
  := by
  use g.agreement
  show Custody out p.places c.pageSize (memory w')
  rw [eq]
  apply g.custody

/-- A frame that is handed out comes into hand. -/
theorem acquire (g : Guarded out (p, w)) (acquired : acquireFrame device w = (.ok frame, w')) :
  (device, frame) ∉ out ∧ Guarded (insert (device, frame) out) (p, w') ∧ Keeps out (p, w) (p, w')
  := by
  obtain ⟨rest, free, eq⟩ := memory_acquireFrame_of_ok acquired
  obtain ⟨fresh, custody⟩ := g.custody.acquire (x := (device, frame)) free
  use fresh
  constructor
  · use g.agreement
    show Custody _ p.places c.pageSize (memory w')
    rw [eq]
    apply custody
  · rw [Keeps, eq]
    apply Kept.withFree

/-- A frame in hand is given back. -/
theorem release (g : Guarded (insert (device, frame) out) (p, w))
    (fresh : (device, frame) ∉ out) :
  Guarded out (p, releaseFrame device frame w) ∧
    Keeps out (p, w) (p, releaseFrame device frame w)
  := by
  have mem : (device, frame) ∈ insert (device, frame) out := Set.mem_insert _ _
  have eq := memory_releaseFrame_of_isFrame (g.custody.isFrame .outside _ mem)
    (g.custody.not_free_of_mem mem)
  constructor
  · use g.agreement
    show Custody out p.places c.pageSize (memory (releaseFrame device frame w))
    rw [eq]
    apply g.custody.release fresh
  · rw [Keeps, eq]
    apply Kept.withFree

/-- Bytes of a frame in hand are written. -/
theorem write (g : Guarded (insert (device, frame) out) (p, w)) (fresh : (device, frame) ∉ out)
    (same : Memories.SameBut (Memories.Covers c.pageSize (device, frame)) (memory w) (memory w')) :
  Guarded (insert (device, frame) out) (p, w') ∧ Keeps out (p, w) (p, w')
  := ⟨⟨g.agreement, g.custody.of_sameBut same⟩, Kept.of_sameBut g.custody fresh same⟩

/-- Frames in hand can be encoded. -/
theorem resident?_ne_none (g : Guarded (insert (.ram, frame) out) s) :
  Entry.resident? frame ≠ none
  := by
  have mem : (.ram, frame) ∈ insert (.ram, frame) out := Set.mem_insert _ out
  obtain ⟨pos, lt⟩ := g.custody.lt_capacity .outside mem
  rw [Ne, Entry.resident?_eq_none_iff, not_or, Nat.not_le]
  use Nat.ne_of_gt pos
  apply lt

theorem lt_capacity_swap (g : Guarded (insert (.swap, slot) out) s) :
  slot < Device.capacity .swap
  := by
  have mem : (.swap, slot) ∈ insert (.swap, slot) out := Set.mem_insert _ out
  apply (g.custody.lt_capacity .outside mem).2

end Guarded

/-! ### Frames -/

/-- On success a frame of the main store has come into hand; contents are kept in any case. -/
def Delivers (out : Set Place) (s : Paging c × ω) : Except Error Nat → Paging c × ω → Prop
  | .ok frame, s' =>
    (.ram, frame) ∉ out ∧ Guarded (insert (.ram, frame) out) s' ∧ Keeps out s s'
  | .error _, s' => Guarded out s' ∧ Keeps out s s'

/-- The slot in hand becomes the place of the victim, whose frame comes into hand. -/
theorem Eviction.delivers (h : Eviction stores s answer s') (fits : c.maxPages ≤ pageLimit)
    (g : Guarded out s) :
  Delivers out s answer s'
  := by
  have agreement := h.agreement fits g.agreement
  cases h with
  | noStore missing => apply g.unmoved
  | noSlot brought acquired =>
      have eq := memory_acquireFrame_of_error acquired
      use g.of_memory eq
      apply Keeps.of_memory eq
  | noVictim brought acquired idle =>
      obtain ⟨fresh, g', kept⟩ := g.acquire acquired
      obtain ⟨g'', kept'⟩ := g'.release fresh
      use g''
      apply kept.trans kept'
  | homeless brought acquired oldest home =>
      exact absurd home (g.agreement.frame?_oldest_ne_none fits oldest)
  | @uncopied p w w' w'' slot victim frame rest e brought acquired oldest home copied =>
      obtain ⟨fresh, g', kept⟩ := g.acquire acquired
      have same := sameBut_copyPage copied
      obtain ⟨g'', kept'⟩ := g'.write fresh same
      obtain ⟨g₃, kept₃⟩ := g''.release fresh
      constructor
      · use agreement
        apply g₃.custody
      · apply kept.trans (kept'.trans kept₃)
  | @evicted p w w' w'' slot victim frame rest brought acquired oldest home copied =>
      obtain ⟨fresh, g', kept⟩ := g.acquire acquired
      have same := sameBut_copyPage copied
      obtain ⟨g'', kept'⟩ := g'.write fresh same
      have hv : victim < pageLimit := lt_of_lt_of_le (g.agreement.oldest_lt oldest) fits
      have place := g.agreement.place_oldest fits oldest home
      obtain ⟨fresh', custody⟩ := g''.custody.relocate fresh place
      have moved : (Paging.setEntry (c := c) { p with residency := ⟨rest⟩ } victim
          (.ofSwap swapDevice slot)).places = Function.update p.places victim (some (.swap, slot))
        := by
        rw [places_setEntry hv, Entry.place?_ofSwap g'.lt_capacity_swap]
        rfl
      use fresh'
      constructor
      · use agreement
        simp only [moved]
        apply custody
      · refine kept.trans (kept'.trans ?_)
        rw [Keeps]
        simp only [moved]
        apply Kept.relocate g'.custody place same
        intro k hk
        apply placeByte_copyPage (by decide) copied hk

theorem Obtaining.delivers (h : Obtaining stores s answer s') (fits : c.maxPages ≤ pageLimit)
    (g : Guarded out s) :
  Delivers out s answer s'
  := by
  cases h with
  | noStore missing => apply g.unmoved
  | free brought acquired => apply g.acquire acquired
  | refused brought acquired other =>
      have eq := memory_acquireFrame_of_error acquired
      use g.of_memory eq
      apply Keeps.of_memory eq
  | full brought acquired eviction =>
      have eq := memory_acquireFrame_of_error acquired
      have delivers := eviction.delivers fits (g.of_memory eq)
      cases answer with
      | error e =>
          obtain ⟨g', kept⟩ := delivers
          use g'
          apply (Keeps.of_memory eq).trans kept
      | ok frame =>
          obtain ⟨fresh, g', kept⟩ := delivers
          use fresh, g'
          apply (Keeps.of_memory eq).trans kept

/-! ### Faults -/

/-- A page without a place gets the frame in hand as its place. -/
theorem Guarded.install (g : Guarded (insert (.ram, frame) out) (p, w))
    (fresh : (.ram, frame) ∉ out) (hp : page < pageLimit) {entry : Entry}
    (fit : Entry.resident? frame = some entry)
    (agreement : (p.install page entry).Agreement) (absent : p.places page = none) :
  Guarded out (p.install page entry, w)
  := by
  use agreement
  have custody := g.custody.occupy fresh absent
  simp only [places_install hp, Entry.place?_resident? fit]
  apply custody

theorem Mapping.keeps (h : Mapping stores page s answer s') (fits : c.maxPages ≤ pageLimit)
    (below : page < c.maxPages) (absent : s.1.places page = none) (g : Guarded out s) :
  Guarded out s' ∧ Keeps out s s'
  := by
  have hp : page < pageLimit := lt_of_lt_of_le below fits
  rw [places_of_lt hp] at absent
  have out_of_ram := Entry.isResident_eq_false_of_place absent (by simp)
  have agreement := h.agreement fits below out_of_ram g.agreement
  cases h with
  | noFrame obtaining => apply obtaining.delivers fits g
  | rejected obtaining unfit =>
      obtain ⟨fresh, g', kept⟩ := obtaining.delivers fits g
      exact absurd unfit g'.resident?_ne_none
  | @uncleared p w w' frame e obtaining cleared =>
      obtain ⟨fresh, g', kept⟩ := obtaining.delivers fits g
      have same := sameBut_clearFrame cleared
      obtain ⟨g₁, kept₁⟩ := g'.write fresh same
      obtain ⟨g₂, kept₂⟩ := g₁.release fresh
      use g₂
      apply kept.trans (kept₁.trans kept₂)
  | @mapped p w w' frame entry obtaining fit cleared =>
      obtain ⟨fresh, g', kept⟩ := obtaining.delivers fits g
      have same := sameBut_clearFrame cleared
      obtain ⟨g₁, kept₁⟩ := g'.write fresh same
      have absent' : p.places page = none := by
        rw [places_of_lt hp, (obtaining.swapsOut fits g.agreement).entry_eq hp out_of_ram, absent]
      use g₁.install fresh hp fit agreement absent'
      refine kept.trans (kept₁.trans ?_)
      rw [Keeps]
      simp only [places_install hp, Entry.place?_resident? fit]
      apply Kept.update
      intro k hk
      have zero := placeByte_clearFrame cleared hk
      rw [content_of_place (f := fun _ : Nat => some (.ram, frame)) rfl, content_of_none absent',
        zero]

/-- A page that is in a slot stays there when others are swapped out. -/
theorem SwapsOut.place_eq {p p' : Paging c} (h : SwapsOut stores p p') (hp : page < pageLimit)
    (place : p.places page = some (.swap, slot)) :
  p'.places page = some (.swap, slot)
  := by
  rw [places_of_lt hp] at place ⊢
  have out_of_ram := Entry.isResident_eq_false_of_place place (by simp)
  rw [h.entry_eq hp out_of_ram, place]

/-- The frame in hand becomes the place of the page, and the slot that comes into hand is given
back. -/
theorem Return.keeps (h : Return stores page slot s answer s') (fits : c.maxPages ≤ pageLimit)
    (below : page < c.maxPages) (swapped : s.1.places page = some (.swap, slot))
    (g : Guarded out s) :
  Guarded out s' ∧ Keeps out s s'
  := by
  have hp : page < pageLimit := lt_of_lt_of_le below fits
  have place : (s.1.entry page).place? = some (.swap, slot) := by
    rw [← places_of_lt hp, swapped]
  have agreement := h.agreement fits below place g.agreement
  cases h with
  | noStore missing => apply g.unmoved
  | noFrame obtaining => apply obtaining.delivers fits g
  | @uncopied p w w' frame e brought obtaining copied =>
      obtain ⟨fresh, g', kept⟩ := obtaining.delivers fits g
      have same := sameBut_copyPage copied
      obtain ⟨g₁, kept₁⟩ := g'.write fresh same
      obtain ⟨g₂, kept₂⟩ := g₁.release fresh
      use g₂
      apply kept.trans (kept₁.trans kept₂)
  | rejected brought obtaining copied unfit =>
      obtain ⟨fresh, g', kept⟩ := obtaining.delivers fits g
      exact absurd unfit g'.resident?_ne_none
  | @returned p w w' frame entry brought obtaining copied fit =>
      obtain ⟨fresh, g', kept⟩ := obtaining.delivers fits g
      have same := sameBut_copyPage copied
      obtain ⟨g₁, kept₁⟩ := g'.write fresh same
      have place' := (obtaining.swapsOut fits g.agreement).place_eq hp swapped
      obtain ⟨fresh_slot, custody⟩ := g₁.custody.relocate fresh place'
      have moved : (p.install page entry).places
          = Function.update p.places page (some (.ram, frame))
        := by
        rw [places_install hp, Entry.place?_resident? fit]
      have g₂ : Guarded (insert (.swap, slot) out) (p.install page entry, w') := by
        use agreement
        simp only [moved]
        apply custody
      obtain ⟨g₃, kept₃⟩ := g₂.release fresh_slot
      use g₃
      refine kept.trans (kept₁.trans (Keeps.trans ?_ kept₃))
      rw [Keeps]
      simp only [moved]
      apply Kept.relocate g'.custody place' same
      intro k hk
      apply placeByte_copyPage (by decide) copied hk

theorem Resolution.keeps (h : Resolution stores page s answer s') (fits : c.maxPages ≤ pageLimit)
    (g : Guarded out s) :
  Guarded out s' ∧ Keeps out s s'
  := by
  cases h with
  | beyond above => apply g.unmoved
  | identity below mode => apply g.unmoved
  | resident below mode place => apply g.unmoved
  | swapped below mode place fault =>
      apply fault.keeps fits below _ g
      rw [places_of_lt (lt_of_lt_of_le below fits), place]
  | unmapped below mode place fault =>
      apply fault.keeps fits below _ g
      rw [places_of_lt (lt_of_lt_of_le below fits), place]

/-! ### Ranges of pages -/

/-- Every place of the pages listed is in a store that the caller brings. -/
def Brought (stores : Stores) (pages : List Nat) (s : Paging c × ω) : Prop :=
  ∀ page ∈ pages, ∀ x, s.1.places page = some x → stores.has x.1 = true

/-- The pages listed are zero. -/
def Blank (pages : List Nat) (s : Paging c × ω) : Prop :=
  ∀ page ∈ pages, ∀ offset < c.pageSize,
    content s.1.places c.pageSize (memory s.2) page offset = 0

theorem Blank.of_keeps {pages : List Nat} (h : Blank pages s) (kept : Keeps out s s') :
  Blank pages s'
  := by
  intro page mem k hk
  rw [kept.content page k hk, h page mem k hk]

/-- A page that is zero is unmapped. -/
theorem Guarded.withdraw (g : Guarded out s) (hp : page < pageLimit)
    (brought : ∀ x, s.1.places page = some x → stores.has x.1 = true)
    (blank : ∀ offset < c.pageSize,
      content s.1.places c.pageSize (memory s.2) page offset = 0) :
  Guarded out (withdraw stores s page) ∧ Keeps out s (withdraw stores s page)
  := by
  obtain ⟨p, w⟩ := s
  have agreement := g.agreement.clear hp
  have emptied : Keeps out (p, w) ((p.clearEntry page).unlist page, w) := by
    rw [Keeps]
    simp only [places_withdraw hp]
    apply Kept.update
    intro k hk
    rw [content_of_none (f := fun _ : Nat => none) rfl]
    exact (blank k hk).symm
  rw [Paging.withdraw, ← places_of_lt hp]
  rcases place : p.places page with - | ⟨device, frame⟩
  · constructor
    · use agreement
      simp only [places_withdraw hp, giveBack]
      rw [← place, Function.update_eq_self]
      apply g.custody
    · apply emptied
  · have has : stores.has device = true := brought (device, frame) place
    obtain ⟨fresh, custody⟩ := g.custody.vacate place
    have g' : Guarded (insert (device, frame) out) ((p.clearEntry page).unlist page, w) := by
      use agreement
      simp only [places_withdraw hp]
      apply custody
    obtain ⟨g'', kept⟩ := g'.release fresh
    simp only [giveBack, if_pos has]
    use g''
    apply emptied.trans kept

/-- Pages that are zero are unmapped. -/
theorem Guarded.withdraw_all {pages : List Nat} (g : Guarded out s)
    (inside : ∀ page ∈ pages, page < pageLimit) (brought : Brought stores pages s)
    (blank : Blank pages s) :
  Guarded out (pages.foldl (Paging.withdraw stores) s) ∧
    Keeps out s (pages.foldl (Paging.withdraw stores) s)
  := by
  induction pages generalizing s with
  | nil => apply g.unmoved
  | cons page rest ih =>
      have hp := inside page List.mem_cons_self
      obtain ⟨g', kept⟩ := g.withdraw hp (brought page List.mem_cons_self)
        (blank page List.mem_cons_self)
      have brought' : Brought stores rest (Paging.withdraw stores s page) := by
        intro other mem x place
        rw [Paging.withdraw] at place
        simp only [places_withdraw hp, Function.update_apply] at place
        split at place
        · cases place
        · apply brought other (List.mem_cons_of_mem _ mem) x place
      have blank' : Blank rest s := fun other mem => blank other (List.mem_cons_of_mem _ mem)
      obtain ⟨g'', kept'⟩ := ih g' (fun other mem => inside other (List.mem_cons_of_mem _ mem))
        brought' (blank'.of_keeps kept)
      use g''
      apply kept.trans kept'

theorem Obtaining.brought (h : Obtaining stores s (.ok frame) s') :
  stores.ram = true
  := by
  cases h with
  | free brought acquired => apply brought
  | full brought acquired eviction => apply brought

/-- A page that is swapped out has its new place in a store that the caller brings. -/
theorem SwapsOut.brought {p p' : Paging c} (h : SwapsOut stores p p') (hp : page < pageLimit)
    {x : Place} (place : p'.places page = some x) :
  p.places page = some x ∨ stores.has x.1 = true
  := by
  rw [places_of_lt hp] at place ⊢
  rcases h page hp with eq | ⟨brought, -, swapped⟩
  · rw [← eq]
    apply Or.inl place
  · obtain ⟨slot, place'⟩ := Entry.isSwapped_iff.mp swapped
    rw [place] at place'
    obtain rfl := Option.some.inj place'
    apply Or.inr brought

/-- Mapping a page moves pages to stores that the caller brings. -/
theorem Mapping.brought (h : Mapping stores page s answer s') (fits : c.maxPages ≤ pageLimit)
    (a : s.1.Agreement) (hp : page < pageLimit) {other : Nat} (ho : other < pageLimit) {x : Place}
    (place : s'.1.places other = some x) :
  s.1.places other = some x ∨ stores.has x.1 = true
  := by
  cases h with
  | noFrame obtaining => apply (obtaining.swapsOut fits a).brought ho place
  | rejected obtaining unfit => apply (obtaining.swapsOut fits a).brought ho place
  | uncleared obtaining cleared => apply (obtaining.swapsOut fits a).brought ho place
  | mapped obtaining fit cleared =>
      simp only [places_install hp, Entry.place?_resident? fit, Function.update_apply] at place
      split at place
      · obtain rfl := Option.some.inj place
        apply Or.inr obtaining.brought
      · apply (obtaining.swapsOut fits a).brought ho place

theorem Progress.keeps {count : Nat} {mapped : List Nat} {answer : Except Error Unit}
    (h : Progress stores count page mapped s answer s') (fits : c.maxPages ≤ pageLimit)
    (range : page + count ≤ c.maxPages) (inside : ∀ page ∈ mapped, page < pageLimit)
    (brought : Brought stores mapped s) (blank : Blank mapped s) (g : Guarded out s) :
  Guarded out s' ∧ Keeps out s s'
  := by
  induction h with
  | done => apply g.unmoved
  | skipped present rest ih => apply ih (by omega) inside brought blank g
  | @undone count page mapped s s' e absent mapping =>
      have hp : page < pageLimit := by omega
      have absent' : s.1.places page = none := by
        rw [places_of_lt hp, Entry.place?_eq_none_iff.mpr absent]
      obtain ⟨g', kept⟩ := mapping.keeps fits (by omega) absent' g
      have brought' : Brought stores mapped s' := by
        intro other mem x place
        rcases mapping.brought fits g.agreement hp (inside other mem) place with before | has
        · apply brought other mem x before
        · apply has
      obtain ⟨g'', kept'⟩ := g'.withdraw_all inside brought' (blank.of_keeps kept)
      use g''
      apply kept.trans kept'
  | @mapped count page frame mapped s s' s'' answer absent mapping rest ih =>
      have hp : page < pageLimit := by omega
      have absent' : s.1.places page = none := by
        rw [places_of_lt hp, Entry.place?_eq_none_iff.mpr absent]
      obtain ⟨g', kept⟩ := mapping.keeps fits (by omega) absent' g
      have inside' : ∀ other ∈ mapped ++ [page], other < pageLimit := by
        intro other mem
        rcases List.mem_append.mp mem with mem | mem
        · apply inside other mem
        · rw [List.mem_singleton.mp mem]
          apply hp
      have brought' : Brought stores (mapped ++ [page]) s' := by
        intro other mem x place
        rcases mapping.brought fits g.agreement hp (inside' other mem) place with before | has
        · rcases List.mem_append.mp mem with mem | mem
          · apply brought other mem x before
          · rw [List.mem_singleton.mp mem, absent'] at before
            cases before
        · apply has
      have blank' : Blank (mapped ++ [page]) s := by
        intro other mem k hk
        rcases List.mem_append.mp mem with mem | mem
        · apply blank other mem k hk
        · rw [List.mem_singleton.mp mem]
          apply content_of_none absent'
      obtain ⟨g'', kept'⟩ := ih (by omega) inside' brought' (blank'.of_keeps kept) g'
      use g''
      apply kept.trans kept'

theorem RangeMapping.keeps {start stop : Nat} {answer : Except Error Unit}
    (h : RangeMapping stores start stop s answer s') (fits : c.maxPages ≤ pageLimit)
    (g : Guarded out s) :
  Guarded out s' ∧ Keeps out s s'
  := by
  cases h with
  | nothing none => apply g.unmoved
  | beyond some above => apply g.unmoved
  | identity some below mode => apply g.unmoved
  | paged some below mode progress =>
      have le := pageOf_mono (c := c) (Nat.le_sub_one_of_lt some)
      apply progress.keeps fits (by omega) _ _ _ g
      · intro page mem
        cases mem
      · intro page mem
        cases mem
      · intro page mem
        cases mem

end VirtualMemory.Paging
