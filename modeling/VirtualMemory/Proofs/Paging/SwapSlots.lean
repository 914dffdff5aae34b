import VirtualMemory.Proofs.Paging.Agreement
import VirtualMemory.Proofs.Store.Swap

/-!
# Pages in swap slots

A page that is swapped is in a slot of its own, which is not free, and the frame of a page that is
resident can be entered again.  This is kept, whatever the main store answers, and a fault that
fails leaves every page that was swapped in its slot, with its bytes.  There is one exception: a
page comes back from its slot to a frame whose number no entry can hold.  The slot is given back
before the number is looked at, so that the page stays in a slot that is free.
-/

namespace VirtualMemory.Paging

open Backing SwapBacked

variable {c : Config} {ω : Type} [SwapBacked ω] {p p' : Paging c} {w w' : ω}
variable {s s' s'' : Paging c × ω} {page frame slot : Nat} {e : Entry}
variable {stores : Stores} {answer : Except Error Nat}

/-- The page table is well formed, the swap memory has no more frames than entries can tell apart,
and only such frames are free.  The slot of each swapped page is a frame that is used and belongs
to no other page, and the frame of each resident page has an entry. -/
structure Slotted (s : Paging c × ω) : Prop where
  wellFormed : s.1.table.WellFormed
  few : (swap s.2).frameCount ≤ Device.capacity .swap
  pool : (swap s.2).PoolsFrames
  fit : ∀ page frame, (s.1.entry page).place? = some (.ram, frame) → Entry.resident? frame ≠ none
  isFrame : ∀ page slot, (s.1.entry page).place? = some (.swap, slot) → (swap s.2).IsFrame slot
  used : ∀ page slot, (s.1.entry page).place? = some (.swap, slot) → slot ∉ (swap s.2).free
  distinct : ∀ page other slot, (s.1.entry page).place? = some (.swap, slot) →
    (s.1.entry other).place? = some (.swap, slot) → page % pageLimit = other % pageLimit

/-- Each page in a slot keeps its entry, and its slot is not free and reads as before. -/
def SlotsStay (s s' : Paging c × ω) : Prop :=
  ∀ page slot, (s.1.entry page).place? = some (.swap, slot) →
    s'.1.entry page = s.1.entry page ∧ slot ∉ (swap s'.2).free ∧
    ∀ offset < c.pageSize, (readByte .swap (slot * c.pageSize + offset) s'.2).1 =
      (readByte .swap (slot * c.pageSize + offset) s.2).1

/-- Pages in slots stay there, and the slots are in order. -/
structure Kept (s s' : Paging c × ω) : Prop where
  slotted : Slotted s'
  stay : SlotsStay s s'

/-- A slot that is neither free nor held by a page. -/
structure InHand (s : Paging c × ω) (slot : Nat) : Prop where
  isFrame : (swap s.2).IsFrame slot
  used : slot ∉ (swap s.2).free
  unheld : ∀ page, (s.1.entry page).place? ≠ some (.swap, slot)

theorem Kept.trans (h : Kept s s') (h' : Kept s' s'') :
  Kept s s''
  := by
  use h'.slotted
  intro page slot place
  obtain ⟨entry, -, bytes⟩ := h.stay page slot place
  obtain ⟨entry', used, bytes'⟩ := h'.stay page slot (by rw [entry, place])
  use entry'.trans entry, used
  intro offset inside
  rw [bytes' offset inside, bytes offset inside]

/-! ### Changes of the stores -/

/-- Another pool of the same frames may take the place of the one at hand, if no slot of a page is
free in it. -/
theorem Slotted.withPool (h : Slotted (p, w)) (count : (swap w').frameCount = (swap w).frameCount)
    (pool : (swap w').PoolsFrames)
    (used : ∀ page slot, (p.entry page).place? = some (.swap, slot) → slot ∉ (swap w').free) :
  Slotted (p, w')
  := by
  constructor
  · apply h.wellFormed
  · rw [count]
    apply h.few
  · apply pool
  · apply h.fit
  · intro page slot place
    rw [Memory.IsFrame, count]
    apply h.isFrame page slot place
  · apply used
  · apply h.distinct

/-- Pages stay in their slots if the bytes of the slots stay. -/
theorem Slotted.kept_withPool (h : Slotted (p, w))
    (count : (swap w').frameCount = (swap w).frameCount) (pool : (swap w').PoolsFrames)
    (used : ∀ page slot, (p.entry page).place? = some (.swap, slot) → slot ∉ (swap w').free)
    (bytes : ∀ page slot, (p.entry page).place? = some (.swap, slot) → ∀ offset < c.pageSize,
      (Memory.readByte (slot * c.pageSize + offset) (swap w')).1 =
        (Memory.readByte (slot * c.pageSize + offset) (swap w)).1) :
  Kept (p, w) (p, w')
  := by
  use h.withPool count pool used
  intro page slot place
  use rfl, used page slot place
  intro offset inside
  rw [readByte_swap_fst, readByte_swap_fst]
  apply bytes page slot place offset inside

/-- The swap memory is the same, and so is the page table. -/
theorem Slotted.kept_of_eq (h : Slotted (p, w)) (table : p'.table = p.table)
    (eq : swap w' = swap w) :
  Kept (p, w) (p', w')
  := by
  obtain ⟨_, residency⟩ := p'
  obtain rfl := table
  have kept : Kept (p, w) (p, w') := by
    apply h.kept_withPool
    · rw [eq]
    · rw [eq]
      apply h.pool
    · rw [eq]
      apply h.used
    · intro page slot place offset inside
      rw [eq]
  obtain ⟨⟨wellFormed, few, pool, fit, isFrame, used, distinct⟩, stay⟩ := kept
  constructor
  · use wellFormed, few, pool, fit, isFrame, used
    apply distinct
  · apply stay

theorem Slotted.kept_refl (h : Slotted s) :
  Kept s s
  := h.kept_of_eq rfl rfl

theorem Kept.of_eq (h : Kept s (p, w)) (table : p'.table = p.table) (eq : swap w' = swap w) :
  Kept s (p', w')
  := h.trans (h.slotted.kept_of_eq table eq)

/-- A slot that is handed out is in nobody's hands. -/
theorem Slotted.acquire (h : Slotted (p, w)) (acquired : acquireFrame .swap w = (.ok slot, w')) :
  Kept (p, w) (p, w') ∧ InHand (p, w') slot
  := by
  obtain ⟨free, count, bytes⟩ := swap_acquireFrame_of_ok acquired
  have nodup := h.pool.nodup
  rw [free] at nodup
  obtain ⟨fresh, nodup⟩ := List.nodup_cons.mp nodup
  have isFrame : ∀ n ∈ slot :: (swap w').free, (swap w').IsFrame n := by
    rw [← free]
    intro n mem
    rw [Memory.IsFrame, count]
    apply h.pool.isFrame n mem
  constructor
  · apply h.kept_withPool count
    · use nodup
      intro n mem
      apply isFrame n (List.mem_cons_of_mem _ mem)
    · intro page held place mem
      apply h.used page held place
      rw [free]
      apply List.mem_cons_of_mem _ mem
    · intro page held place offset inside
      apply bytes
  · use isFrame slot List.mem_cons_self, fresh
    intro page place
    apply h.used page slot place
    rw [free]
    apply List.mem_cons_self

/-- A page is copied to a slot in hand, which has no address in common with the slots of pages. -/
theorem Slotted.copy {copied : Except StoreError Unit} (h : Slotted (p, w))
    (inHand : InHand (p, w) slot)
    (copy : copyPage c.pageSize .ram frame .swap slot w = (copied, w')) :
  Kept (p, w) (p, w') ∧ InHand (p, w') slot
  := by
  have same := sameBut_copyPage_swap copy
  constructor
  · apply h.kept_withPool same.frameCount (same.poolsFrames h.pool)
    · rw [same.free]
      apply h.used
    · intro page held place offset inside
      apply same.byte
      intro touched
      have in_held : Memories.Covers c.pageSize (.swap, held) .swap (held * c.pageSize + offset)
        := ⟨rfl, Nat.le_add_right _ offset, Nat.add_lt_add_left inside _⟩
      have in_slot : Memories.Covers c.pageSize (.swap, slot) .swap (held * c.pageSize + offset)
        := ⟨rfl, touched⟩
      cases in_held.eq in_slot
      apply inHand.unheld page place
  · constructor
    · rw [Memory.IsFrame, same.frameCount]
      apply inHand.isFrame
    · rw [same.free]
      apply inHand.used
    · apply inHand.unheld

/-- A slot in hand is given back. -/
theorem Slotted.release (h : Slotted (p, w)) (inHand : InHand (p, w) slot) :
  Kept (p, w) (p, releaseFrame .swap slot w)
  := by
  apply h.kept_withPool
  · rw [releaseFrame_swap, Memory.frameCount_releaseFrame]
  · rw [releaseFrame_swap]
    apply h.pool.releaseFrame inHand.isFrame
  · intro page held place mem
    rw [releaseFrame_swap, inHand.isFrame.mem_free_releaseFrame] at mem
    rcases mem with mem | rfl
    · apply h.used page held place mem
    · apply inHand.unheld page place
  · intro page held place offset inside
    rw [releaseFrame_swap, Memory.readByte_fst, Memory.bytes_releaseFrame, Memory.readByte_fst]

/-! ### Changes of the page table -/

/-- The entry of a page that is in no slot is set. -/
theorem Slotted.stay_setEntry (h : Slotted (p, w))
    (home : ∀ slot, (p.entry page).place? ≠ some (.swap, slot)) :
  SlotsStay (p, w) (p.setEntry page e, w)
  := by
  intro other slot place
  constructor
  · rw [entry_setEntry_mod, if_neg]
    intro same
    apply home slot
    have eq : p.entry page = p.entry other := by
      rw [← entry_mod, ← same, entry_mod]
    rw [eq, place]
  use h.used other slot place
  intro _ _
  rfl

/-- An entry is set that holds a frame. -/
theorem Slotted.setFrame (h : Slotted (p, w)) (place : e.place? = some (.ram, frame))
    (fit : Entry.resident? frame ≠ none) :
  Slotted (p.setEntry page e, w)
  := by
  have of_swap {other slot : Nat}
      (held : ((p.setEntry page e).entry other).place? = some (.swap, slot)) :
      (p.entry other).place? = some (.swap, slot)
    := by
    rw [entry_setEntry_mod] at held
    split at held
    · rw [place] at held
      cases held
    · apply held
  use h.wellFormed.set, h.few, h.pool
  · intro other frame' home
    rw [entry_setEntry_mod] at home
    split at home
    · cases place.symm.trans home
      apply fit
    · apply h.fit other frame' home
  · intro other slot held
    apply h.isFrame other slot (of_swap held)
  · intro other slot held
    apply h.used other slot (of_swap held)
  · intro other another slot held held'
    apply h.distinct other another slot (of_swap held) (of_swap held')

/-- A page is made resident in a frame that has an entry, and its slot is then in nobody's hands. -/
theorem Slotted.install (h : Slotted (p, w)) (page : Nat) (fit : Entry.resident? frame = some e) :
  Slotted (p.install page e, w) ∧
  ∀ slot, (p.entry page).place? = some (.swap, slot) → InHand (p.install page e, w) slot
  := by
  have set : Slotted (p.setEntry page e, w) := by
    apply h.setFrame (Entry.place?_resident? fit)
    rw [fit]
    apply Option.some_ne_none
  have listed : Kept (p.setEntry page e, w) (p.install page e, w) := set.kept_of_eq rfl rfl
  use listed.slotted
  intro slot held
  use h.isFrame page slot held, h.used page slot held
  intro other place
  rw [Paging.install, entry_enlist, entry_setEntry_mod] at place
  split at place
  · rw [Entry.place?_resident? fit] at place
    cases place
  · next ne => apply ne (h.distinct other page slot place held)

/-- An entry is set that holds a slot in hand. -/
theorem Slotted.setSlot (h : Slotted (p, w)) (inHand : InHand (p, w) slot)
    (place : e.place? = some (.swap, slot)) :
  Slotted (p.setEntry page e, w)
  := by
  have of_swap {other held : Nat}
      (swapped : ((p.setEntry page e).entry other).place? = some (.swap, held)) :
      (other % pageLimit = page % pageLimit ∧ held = slot) ∨
      (p.entry other).place? = some (.swap, held)
    := by
    rw [entry_setEntry_mod] at swapped
    split at swapped
    · next same =>
        cases place.symm.trans swapped
        exact Or.inl ⟨same, rfl⟩
    · exact Or.inr swapped
  use h.wellFormed.set, h.few, h.pool
  · intro other frame home
    rw [entry_setEntry_mod] at home
    split at home
    · cases place.symm.trans home
    · apply h.fit other frame home
  · intro other held swapped
    rcases of_swap swapped with ⟨-, rfl⟩ | swapped
    · apply inHand.isFrame
    · apply h.isFrame other held swapped
  · intro other held swapped
    rcases of_swap swapped with ⟨-, rfl⟩ | swapped
    · apply inHand.used
    · apply h.used other held swapped
  · intro other another held swapped swapped'
    rcases of_swap swapped with ⟨same, rfl⟩ | swapped
    · rcases of_swap swapped' with ⟨same', -⟩ | swapped'
      · rw [same, same']
      · exact absurd swapped' (inHand.unheld another)
    · rcases of_swap swapped' with ⟨-, rfl⟩ | swapped'
      · exact absurd swapped (inHand.unheld other)
      · apply h.distinct other another held swapped swapped'

/-- The entry of a page is emptied, and its slot is then in nobody's hands. -/
theorem Slotted.clear (h : Slotted (p, w)) (page : Nat) :
  Slotted ((p.clearEntry page).unlist page, w) ∧
  ∀ slot, (p.entry page).place? = some (.swap, slot) →
    InHand ((p.clearEntry page).unlist page, w) slot
  := by
  have of_place {other : Nat} {x : Place}
      (place : (((p.clearEntry page).unlist page).entry other).place? = some x) :
      (p.entry other).place? = some x ∧ other % pageLimit ≠ page % pageLimit
    := by
    rw [entry_unlist, entry_clearEntry_mod] at place
    split at place
    · cases place
    · next ne =>
        use place, ne
  constructor
  · use h.wellFormed.clear, h.few, h.pool
    · intro other frame place
      apply h.fit other frame (of_place place).1
    · intro other slot place
      apply h.isFrame other slot (of_place place).1
    · intro other slot place
      apply h.used other slot (of_place place).1
    · intro other another slot place place'
      apply h.distinct other another slot (of_place place).1 (of_place place').1
  · intro slot held
    use h.isFrame page slot held, h.used page slot held
    intro other place
    obtain ⟨held', ne⟩ := of_place place
    apply ne (h.distinct other page slot held' held)

/-! ### Frames -/

/-- The slot for the victim is in hand until its entry holds it. -/
theorem Eviction.kept (h : Eviction stores s answer s') (t : Slotted s) :
  Kept s s' ∧ ∀ frame, answer = .ok frame → Entry.resident? frame ≠ none
  := by
  cases h with
  | noStore missing =>
      use t.kept_refl
      nofun
  | noSlot brought acquired =>
      use t.kept_of_eq rfl (swap_acquireFrame_of_error acquired)
      nofun
  | noVictim brought acquired idle =>
      obtain ⟨taken, inHand⟩ := t.acquire acquired
      use taken.trans (taken.slotted.release inHand)
      nofun
  | homeless brought acquired oldest home =>
      obtain ⟨taken, inHand⟩ := t.acquire acquired
      have returned := taken.trans (taken.slotted.release inHand)
      use returned.of_eq rfl rfl
      nofun
  | uncopied brought acquired oldest home copied =>
      obtain ⟨taken, inHand⟩ := t.acquire acquired
      obtain ⟨written, inHand⟩ := taken.slotted.copy inHand copied
      have returned := taken.trans (written.trans (written.slotted.release inHand))
      use returned.of_eq rfl rfl
      nofun
  | @evicted p w w' w'' slot victim frame rest brought acquired oldest home copied =>
      have place := Entry.frame?_eq_some_iff.mp home
      obtain ⟨taken, inHand⟩ := t.acquire acquired
      obtain ⟨written, inHand⟩ := taken.slotted.copy inHand copied
      have listed : Kept (p, w) (({ p with residency := ⟨rest⟩ } : Paging c), w'')
        := (taken.trans written).of_eq rfl rfl
      have small : slot < Device.capacity .swap
        := lt_of_lt_of_le inHand.isFrame.2 listed.slotted.few
      constructor
      · apply listed.trans
        constructor
        · apply listed.slotted.setSlot _ (Entry.place?_ofSwap small)
          use inHand.isFrame, inHand.used
          apply inHand.unheld
        · apply listed.slotted.stay_setEntry
          intro held swapped
          cases place.symm.trans swapped
      · rintro _ ⟨⟩
        apply t.fit victim frame place

/-- Pages stay in their slots while a frame is obtained.  If the frame has no entry it was free. -/
theorem Obtaining.kept (h : Obtaining stores s answer s') (t : Slotted s) :
  Kept s s' ∧ ∀ frame, answer = .ok frame → Entry.resident? frame = none →
    stores.ram = true ∧ acquireFrame .ram s.2 = (.ok frame, s'.2)
  := by
  cases h with
  | noStore missing =>
      use t.kept_refl
      nofun
  | free brought acquired =>
      use t.kept_of_eq rfl (swap_acquireFrame_ram acquired)
      rintro _ ⟨⟩ -
      use brought, acquired
  | refused brought acquired other =>
      use t.kept_of_eq rfl (swap_acquireFrame_ram acquired)
      nofun
  | @full p w w' answer s' brought acquired eviction =>
      have asked : Kept (p, w) (p, w') := t.kept_of_eq rfl (swap_acquireFrame_ram acquired)
      obtain ⟨kept, fit⟩ := eviction.kept asked.slotted
      use asked.trans kept
      intro frame ok unfit
      exact absurd unfit (fit frame ok)

/-- The main store is asked first. -/
theorem Obtaining.of_acquired (h : Obtaining stores s answer s') (brought : stores.ram = true)
    (acquired : acquireFrame .ram s.2 = (.ok frame, w)) :
  answer = .ok frame ∧ s' = (s.1, w)
  := by
  cases h with
  | noStore missing =>
      rw [brought] at missing
      cases missing
  | free brought acquired' =>
      cases acquired.symm.trans acquired'
      constructor
      · rfl
      · rfl
  | refused brought acquired' other => cases acquired.symm.trans acquired'
  | full brought acquired' eviction => cases acquired.symm.trans acquired'

/-! ### Faults -/

/-- Where all pages stay in their slots, they do if the operation fails. -/
theorem Kept.of_error (h : Kept s s') :
  Slotted s' ∧ ∀ e, answer = .error e → SlotsStay s s'
  := ⟨h.slotted, fun _ _ => h.stay⟩

/-- Slots are in order after a page was mapped, and pages stay in theirs if it could not be. -/
theorem Mapping.kept (h : Mapping stores page s answer s') (t : Slotted s) :
  Slotted s' ∧ ∀ e, answer = .error e → SlotsStay s s'
  := by
  cases h with
  | noFrame obtaining => apply (obtaining.kept t).1.of_error
  | rejected obtaining unfit =>
      apply Kept.of_error
      apply (obtaining.kept t).1.of_eq rfl (releaseFrame_ram _ _)
  | uncleared obtaining cleared =>
      apply Kept.of_error
      apply (obtaining.kept t).1.of_eq rfl
      rw [releaseFrame_ram, swap_clearFrame_ram cleared]
  | mapped obtaining fit cleared =>
      have zeroed := (obtaining.kept t).1.of_eq rfl (swap_clearFrame_ram cleared)
      use (zeroed.slotted.install page fit).1
      nofun

/-- Both stores are brought, the main store hands out a number that no entry can hold, and the page
in the slot is copied there nevertheless. -/
def Misplaces (stores : Stores) (slot : Nat) (s : Paging c × ω) : Prop :=
  stores.ram = true ∧ stores.swap = true ∧
  ∃ frame w w', acquireFrame .ram s.2 = (.ok frame, w) ∧ Entry.resident? frame = none ∧
    copyPage c.pageSize .swap slot .ram frame w = (.ok (), w')

/-- Slots are in order after the return of a page, and pages stay in theirs if it failed, unless the
page was misplaced.  The frame of an evicted page would have an entry, so a page is misplaced only
if the main store hands its frame out. -/
theorem Return.kept (h : Return stores page slot s answer s') (t : Slotted s)
    (held : (s.1.entry page).place? = some (.swap, slot)) (placed : ¬ Misplaces stores slot s) :
  Slotted s' ∧ ∀ e, answer = .error e → SlotsStay s s'
  := by
  cases h with
  | noStore missing => apply t.kept_refl.of_error
  | noFrame obtaining => apply (obtaining.kept t).1.of_error
  | uncopied brought obtaining copied =>
      apply Kept.of_error
      apply (obtaining.kept t).1.of_eq rfl
      rw [releaseFrame_ram, swap_copyPage_ram copied]
  | rejected brought obtaining copied unfit =>
      obtain ⟨brought_ram, acquired⟩ := (obtaining.kept t).2 _ rfl unfit
      exact absurd ⟨brought_ram, brought, _, _, _, acquired, unfit, copied⟩ placed
  | returned brought obtaining copied fit =>
      have arrived := (obtaining.kept t).1.of_eq rfl (swap_copyPage_ram copied)
      obtain ⟨entry_eq, -⟩ := arrived.stay page slot held
      obtain ⟨installed, inHand⟩ := arrived.slotted.install page fit
      have returned := installed.release (inHand slot (by rw [entry_eq, held]))
      use returned.slotted
      nofun

/-- The return of a misplaced page fails, and its slot is free afterwards: the slot of a page is a
frame that the memory takes back. -/
theorem Return.free_of_misplaces (h : Return stores page slot s answer s') (t : Slotted s)
    (held : (s.1.entry page).place? = some (.swap, slot)) (misplaces : Misplaces stores slot s) :
  (∃ e, answer = .error e) ∧ slot ∈ (swap s'.2).free
  := by
  obtain ⟨brought_ram, brought_swap, frame, w, w', acquired, unfit, copied⟩ := misplaces
  cases h with
  | noStore missing =>
      rw [brought_swap] at missing
      cases missing
  | noFrame obtaining => cases (obtaining.of_acquired brought_ram acquired).1
  | uncopied brought obtaining copied' =>
      obtain ⟨⟨⟩, ⟨⟩⟩ := obtaining.of_acquired brought_ram acquired
      cases copied.symm.trans copied'
  | rejected brought obtaining copied' unfit' =>
      have arrived := (obtaining.kept t).1.of_eq rfl (swap_copyPage_ram copied')
      obtain ⟨entry_eq, -⟩ := arrived.stay page slot held
      have isFrame := arrived.slotted.isFrame page slot (by rw [entry_eq, held])
      constructor
      · apply Exists.intro
        rfl
      · rw [releaseFrame_swap, isFrame.mem_free_releaseFrame]
        exact Or.inr rfl
  | returned brought obtaining copied' fit =>
      obtain ⟨⟨⟩, ⟨⟩⟩ := obtaining.of_acquired brought_ram acquired
      cases unfit.symm.trans fit

/-- A page fault is spoiled if it misplaces a page that was swapped. -/
def Spoiled (stores : Stores) (page : Nat) (s : Paging c × ω) : Prop :=
  c.mode = .paged ∧ page < c.maxPages ∧
  ∃ slot, (s.1.entry page).place? = some (.swap, slot) ∧ Misplaces stores slot s

/-- Slots are in order after a fault, and pages stay in theirs if it failed, unless it was
spoiled. -/
theorem Resolution.kept (h : Resolution stores page s answer s') (t : Slotted s)
    (sound : ¬ Spoiled stores page s) :
  Slotted s' ∧ ∀ e, answer = .error e → SlotsStay s s'
  := by
  cases h with
  | beyond above => apply t.kept_refl.of_error
  | identity below mode => apply t.kept_refl.of_error
  | resident below mode place => apply t.kept_refl.of_error
  | swapped below mode place fault =>
      apply fault.kept t place
      intro misplaces
      exact sound ⟨mode, below, _, place, misplaces⟩
  | unmapped below mode place fault => apply fault.kept t

/-- A fault leaves the pages in their slots if it fails, exactly if it is not spoiled. -/
theorem Resolution.stay_iff (h : Resolution stores page s answer s') (t : Slotted s) :
  (∀ e, answer = .error e → SlotsStay s s') ↔ ¬ Spoiled stores page s
  := by
  constructor
  · rintro stay ⟨mode, below, slot, held, misplaces⟩
    have ends : (∃ e, answer = .error e) ∧ slot ∈ (swap s'.2).free := by
      cases h with
      | beyond above => exact absurd below (Nat.not_lt_of_le above)
      | identity below mode' =>
          rw [mode] at mode'
          cases mode'
      | resident below mode place => cases held.symm.trans place
      | swapped below mode place fault =>
          cases held.symm.trans place
          apply fault.free_of_misplaces t held misplaces
      | unmapped below mode place fault => cases held.symm.trans place
    obtain ⟨⟨e, failed⟩, free⟩ := ends
    exact (stay e failed page slot held).2.1 free
  · intro sound
    apply (h.kept t sound).2

/-! ### Ranges of pages -/

/-- A page is unmapped. -/
theorem Slotted.withdraw (t : Slotted s) :
  Slotted (withdraw stores s page)
  := by
  obtain ⟨p, w⟩ := s
  obtain ⟨cleared, inHand⟩ := t.clear page
  rw [Paging.withdraw]
  rcases place : (p.entry page).place? with - | ⟨device, n⟩
  · apply cleared
  · rw [giveBack]
    split
    · cases device with
      | ram => apply (cleared.kept_of_eq rfl (releaseFrame_ram n w)).slotted
      | swap => apply (cleared.release (inHand n place)).slotted
    · apply cleared

theorem Slotted.withdraw_all {pages : List Nat} (t : Slotted s) :
  Slotted (pages.foldl (Paging.withdraw stores) s)
  := by
  induction pages generalizing s with
  | nil => apply t
  | cons page rest ih =>
      apply ih
      apply t.withdraw

theorem Progress.slotted {count : Nat} {mapped : List Nat} {answer : Except Error Unit}
    (h : Progress stores count page mapped s answer s') (t : Slotted s) :
  Slotted s'
  := by
  induction h with
  | done => apply t
  | skipped present rest ih => apply ih t
  | undone absent mapping => apply (mapping.kept t).1.withdraw_all
  | mapped absent mapping rest ih => apply ih (mapping.kept t).1

theorem RangeMapping.slotted {start stop : Nat} {answer : Except Error Unit}
    (h : RangeMapping stores start stop s answer s') (t : Slotted s) :
  Slotted s'
  := by
  cases h with
  | nothing none => apply t
  | beyond some above => apply t
  | identity some below mode => apply t
  | paged some below mode progress => apply progress.slotted t

/-! ### The release of all pages -/

/-- Where no page is mapped only the free slots matter. -/
theorem slotted_empty (few : (swap w).frameCount ≤ Device.capacity .swap)
    (pool : (swap w).PoolsFrames) :
  Slotted (empty c, w)
  := by
  have nowhere (page : Nat) (x : Place) : ((empty c).entry page).place? ≠ some x := by
    rw [entry_empty]
    rintro ⟨⟩
  use PageTable.wellFormed_empty, few, pool
  · intro page frame place
    exact absurd place (nowhere page _)
  · intro page slot place
    exact absurd place (nowhere page _)
  · intro page slot place
    exact absurd place (nowhere page _)
  · intro page other slot place
    exact absurd place (nowhere page _)

/-- Slots that are frames are given back to a pool of frames. -/
theorem pool_giveBack_all (stores : Stores) {entries : List (Nat × Entry)}
    (pool : (swap w).PoolsFrames)
    (isFrame : ∀ e ∈ entries, ∀ slot, e.2.place? = some (.swap, slot) → (swap w).IsFrame slot) :
  (swap (entries.foldl (fun w e => giveBack stores e.2.place? w) w)).PoolsFrames ∧
  (swap (entries.foldl (fun w e => giveBack stores e.2.place? w) w)).frameCount =
    (swap w).frameCount
  := by
  induction entries generalizing w with
  | nil =>
      use pool
      rfl
  | cons e rest ih =>
      have first : (swap (giveBack stores e.2.place? w)).PoolsFrames ∧
          (swap (giveBack stores e.2.place? w)).frameCount = (swap w).frameCount
        := by
        rcases place : e.2.place? with - | ⟨device, n⟩
        · use pool
          rfl
        · rw [giveBack]
          split
          · cases device with
            | ram =>
                rw [releaseFrame_ram]
                constructor
                · apply pool
                · rfl
            | swap =>
                rw [releaseFrame_swap, Memory.frameCount_releaseFrame]
                constructor
                · apply pool.releaseFrame (isFrame e List.mem_cons_self n place)
                · rfl
          · constructor
            · apply pool
            · rfl
      obtain ⟨pool', count⟩ := first
      rw [List.foldl_cons, ← count]
      apply ih pool'
      intro e' mem slot place
      rw [Memory.IsFrame, count]
      apply isFrame e' (List.mem_cons_of_mem _ mem) slot place

theorem Release.slotted (h : Release stores s answer s') (t : Slotted s) :
  Slotted s'
  := by
  cases h with
  | identity mode => apply t
  | @released p w mode =>
      have isFrame : ∀ e ∈ p.table.entries, ∀ slot, e.2.place? = some (.swap, slot) →
          (swap w).IsFrame slot
        := by
        rintro ⟨page, e⟩ mem slot place
        obtain ⟨-, -, rfl⟩ := t.wellFormed.mem_entries.mp mem
        apply t.isFrame page slot place
      obtain ⟨pool, count⟩ := pool_giveBack_all stores t.pool isFrame
      apply slotted_empty _ pool
      rw [count]
      apply t.few

end VirtualMemory.Paging
