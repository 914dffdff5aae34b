import VirtualMemory.Proofs.Paging.Capacity
import VirtualMemory.Proofs.Paging.Rollback

/-!
# The supply of frames and slots

A page that is brought in takes a free frame, or the frame of the oldest resident page, which
takes a free slot.  On reliable stores it therefore depends on three numbers whether this
succeeds: how many frames are free, how many slots are free, and how many pages are resident.  A
page that cannot be brought in leaves everything as it was.  A range of pages draws on the supply
once for each page that is not mapped: pages that are evicted on the way stay mapped, so the loop
neither skips more pages nor fewer for it.
-/

namespace VirtualMemory

/-- How many frames and slots are free, and how many pages are resident. -/
structure Supply where
  frames : Nat
  slots : Nat
  residents : Nat
deriving DecidableEq

namespace Supply

variable {x y : Supply} {n : Nat}

/-- What is left after one more page is brought in. -/
def draw : Supply → Except Error Supply
  | ⟨frames + 1, slots, residents⟩ => .ok ⟨frames, slots, residents + 1⟩
  | ⟨0, 0, _⟩ => .error .mappingFailed
  | ⟨0, _ + 1, 0⟩ => .error .noVictim
  | ⟨0, slots + 1, residents + 1⟩ => .ok ⟨0, slots, residents + 1⟩

/-- What is left after some more pages are brought in, one after the other. -/
def drawAll : Nat → Supply → Except Error Supply
  | 0, x => .ok x
  | n + 1, x =>
    match x.draw with
    | .ok y => drawAll n y
    | .error e => .error e

/-- The supply is enough for some more pages.  Slots are of use only if a page is resident or
becomes so. -/
def Suffices (x : Supply) (n : Nat) : Prop :=
  n ≤ x.frames ∨ n ≤ x.frames + x.slots ∧ 1 ≤ x.residents + x.frames

instance : Decidable (x.Suffices n) := inferInstanceAs (Decidable (_ ∨ _))

/-- What is left of a supply that is enough: frames are taken before slots. -/
def less (x : Supply) (n : Nat) : Supply where
  frames := x.frames - n
  slots := x.slots - (n - x.frames)
  residents := x.residents + min n x.frames

/-- Why a supply is not enough. -/
def shortage (x : Supply) : Error :=
  if x.residents + x.frames = 0 ∧ 1 ≤ x.slots then .noVictim else .mappingFailed

theorem draw_eq :
  x.draw = if x.Suffices 1 then .ok (x.less 1) else .error x.shortage
  := by
  obtain ⟨frames, slots, residents⟩ := x
  cases frames with
  | succ frames => simp [draw, Suffices, less]
  | zero =>
      cases slots with
      | zero => simp [draw, Suffices, shortage]
      | succ slots =>
          cases residents with
          | zero => simp [draw, Suffices, shortage]
          | succ residents => simp [draw, Suffices, less]

/-- The page that is brought in is resident. -/
theorem residents_pos (h : x.draw = .ok y) :
  1 ≤ y.residents
  := by
  rw [draw_eq] at h
  split at h
  · next enough =>
      obtain rfl := Except.ok.inj h
      rw [Suffices] at enough
      simp only [less]
      omega
  · cases h

theorem suffices_succ_iff :
  x.Suffices (n + 1) ↔ x.Suffices 1 ∧ (x.less 1).Suffices n
  := by
  simp only [Suffices, less]
  omega

theorem less_succ :
  x.less (n + 1) = (x.less 1).less n
  := by
  simp only [less, Supply.mk.injEq]
  omega

/-- The reason does not change as long as pages are brought in. -/
theorem shortage_less (enough : x.Suffices 1) :
  (x.less 1).shortage = x.shortage
  := by
  rw [Suffices] at enough
  rw [shortage, shortage, if_neg, if_neg]
  · omega
  · simp only [less]
    omega

/-- Whether a supply is enough, and what is left of it, in closed form. -/
theorem drawAll_eq :
  drawAll n x = if x.Suffices n then .ok (x.less n) else .error x.shortage
  := by
  induction n generalizing x with
  | zero => simp [drawAll, Suffices, less]
  | succ n ih =>
      rw [drawAll, draw_eq]
      by_cases enough : x.Suffices 1
      · have iff : x.Suffices (n + 1) ↔ (x.less 1).Suffices n := by
          rw [suffices_succ_iff, and_iff_right enough]
        simp only [if_pos enough, ih, iff, shortage_less enough, ← less_succ]
      · rw [if_neg enough, if_neg fun h => enough (suffices_succ_iff.mp h).1]

end Supply

namespace Paging

open Backing MemoryBacked

variable {c : Config} {ω : Type} {stores : Stores} {out : Set Place}
variable {page slot count : Nat} {settle : Supply → Supply}

section Draws

variable [MemoryBacked ω] {p : Paging c} {w w' : ω} {s s' : Paging c × ω}
variable {answer : Except Error Nat}

/-- The supply in a state. -/
def supply (s : Paging c × ω) : Supply where
  frames := (memory s.2 .ram).free.length
  slots := (memory s.2 .swap).free.length
  residents := s.1.residency.pages.length

/-- Pages are as they were, and the same frames and slots are free, be it in another order. -/
structure Unmoved (s s' : Paging c × ω) : Prop where
  paging : s'.1 = s.1
  free : ∀ device, (memory s'.2 device).free.Perm (memory s.2 device).free

/-- A frame is found exactly if the supply is enough for one; the supply left is the one to which
`settle` leads.  If no frame is found nothing moves. -/
def Draws (settle : Supply → Supply) (s : Paging c × ω) (answer : Except Error Nat)
    (s' : Paging c × ω) : Prop :=
  match (supply s).draw with
  | .ok x => (∃ frame, answer = .ok frame) ∧ supply s' = settle x
  | .error e => answer = .error e ∧ Unmoved s s'

theorem Draws.of_ok {x : Supply} {frame : Nat} (draw : (supply s).draw = .ok x)
    (left : supply s' = settle x) :
  Draws settle s (.ok frame) s'
  := by
  rw [Draws, draw]
  constructor
  · use frame
  · apply left

theorem Draws.of_error {e : Error} (draw : (supply s).draw = .error e) (unmoved : Unmoved s s') :
  Draws settle s (.error e) s'
  := by
  rw [Draws, draw]
  constructor
  · rfl
  · apply unmoved

theorem Draws.exists_draw {frame : Nat} (h : Draws settle s (.ok frame) s') :
  ∃ x, (supply s).draw = .ok x ∧ supply s' = settle x
  := by
  rw [Draws] at h
  split at h
  · next x draw =>
      use x, draw
      apply h.2
  · cases h.1

theorem Draws.draw_eq {e : Error} (h : Draws settle s (.error e) s') :
  (supply s).draw = .error e ∧ Unmoved s s'
  := by
  rw [Draws] at h
  split at h
  · obtain ⟨frame, eq⟩ := h.1
    cases eq
  · next e' draw =>
      obtain rfl := Except.error.inj h.1
      use draw
      apply h.2

/-- What the memories are is all that matters of the world. -/
theorem Draws.of_memory (eq : memory w' = memory w) (h : Draws settle (p, w') answer s') :
  Draws settle (p, w) answer s'
  := by
  have same : supply (p, w') = supply (p, w) := by simp only [supply, eq]
  cases answer with
  | ok frame =>
      obtain ⟨x, draw, left⟩ := h.exists_draw
      exact .of_ok (same ▸ draw) left
  | error e =>
      obtain ⟨draw, paging, free⟩ := h.draw_eq
      refine .of_error (same ▸ draw) ⟨paging, ?_⟩
      intro d
      rw [← eq]
      apply free

/-- A page that is installed is one more resident page. -/
theorem supply_install {e : Entry} {x : Supply} (draw : (supply s).draw = .ok x)
    (left : supply (p, w) = { x with residents := x.residents - 1 })
    (same : ∀ device, (memory w' device).free = (memory w device).free) :
  supply (p.install page e, w') = x
  := by
  have pos : 1 ≤ x.residents := Supply.residents_pos draw
  have added : (p.install page e).residency.pages.length = p.residency.pages.length + 1
    := List.length_append
  obtain ⟨frames, slots, residents⟩ := x
  simp only [supply, Supply.mk.injEq] at left
  simp only [supply, added, same, left, Supply.mk.injEq, true_and]
  apply Nat.sub_add_cancel pos

end Draws

variable [Reliable ω] {s s' : Paging c × ω} {answer : Except Error Nat}

theorem supplied_of_draw {x : Supply} (draw : (supply s).draw = .ok x) :
  Supplied s
  := by
  rw [Supplied]
  by_contra none
  rw [not_or, not_and_or, not_ne_iff, not_ne_iff, not_ne_iff] at none
  obtain ⟨ram, swap | idle⟩ := none
  · simp [supply, ram, swap, Supply.draw] at draw
  · rw [Supply.draw_eq, if_neg] at draw
    · cases draw
    · simp [supply, ram, idle, Supply.Suffices]

/-! ### Single pages -/

section Pages

variable (fits : c.maxPages ≤ pageLimit) (all : ∀ device, stores.has device = true)
variable (words : ∀ device, sizes s device < Word.bound)
include fits all words

theorem Eviction.draws (h : Eviction stores s answer s') (g : Guarded out s)
    (full : (memory s.2 .ram).free = []) :
  Draws (fun x => { x with residents := x.residents - 1 }) s answer s'
  := by
  have h' := h
  cases h with
  | noStore missing => cases (all .swap).symm.trans missing
  | @noSlot p w w' e brought acquired =>
      have eq := memory_acquireFrame_of_error acquired
      have none := (exhausted_of_acquireFrame acquired).2
      apply Draws.of_error
      · simp [supply, full, none, Supply.draw]
      · constructor
        · rfl
        · intro d
          rw [eq]
  | @noVictim p w w' slot brought acquired idle =>
      obtain ⟨rest, free, eq⟩ := memory_acquireFrame_of_ok acquired
      obtain ⟨fresh, g', kept⟩ := g.acquire acquired
      have mem : (.swap, slot) ∈ insert (.swap, slot) out := Set.mem_insert _ out
      have eq' := memory_releaseFrame_of_isFrame (g'.custody.isFrame .outside _ mem)
        (g'.custody.not_free_of_mem mem)
      apply Draws.of_error
      · simp [supply, full, free, idle, Supply.draw]
      · constructor
        · rfl
        · intro d
          rw [eq', eq, Memories.free_withFree, Memories.free_withFree, Memories.free_withFree]
          split
          · next same =>
              rw [same, if_pos rfl, free]
              apply List.perm_append_singleton
          · rfl
  | homeless brought acquired oldest home =>
      exact absurd home (g.agreement.frame?_oldest_ne_none fits oldest)
  | uncopied brought acquired oldest home copied =>
      obtain ⟨rest, free, eq⟩ := memory_acquireFrame_of_ok acquired
      obtain ⟨frame, ok⟩ := h'.succeeds fits all words g (by simp [free]) (by simp [oldest])
      cases ok
  | @evicted p w w' w'' slot victim frame rest brought acquired oldest home copied =>
      obtain ⟨rest', free, eq⟩ := memory_acquireFrame_of_ok acquired
      have same := (sameBut_copyPage copied).free
      apply Draws.of_ok (x := ⟨0, rest'.length, rest.length + 1⟩)
      · simp only [supply, full, free, oldest, List.length_nil, List.length_cons, Supply.draw]
      · simp [supply, setEntry, same, eq, Memories.free_withFree, full]

theorem Obtaining.draws (h : Obtaining stores s answer s') (g : Guarded out s) :
  Draws (fun x => { x with residents := x.residents - 1 }) s answer s'
  := by
  cases h with
  | noStore missing => cases (all .ram).symm.trans missing
  | @free p w w' frame brought acquired =>
      obtain ⟨rest, free, eq⟩ := memory_acquireFrame_of_ok acquired
      apply Draws.of_ok (x := ⟨rest.length, (memory w .swap).free.length,
        p.residency.pages.length + 1⟩)
      · simp only [supply, free, List.length_cons, Supply.draw]
      · simp [supply, eq, Memories.free_withFree]
  | refused brought acquired other => exact absurd (exhausted_of_acquireFrame acquired).1 other
  | full brought acquired eviction =>
      have eq := memory_acquireFrame_of_error acquired
      apply Draws.of_memory eq
      apply eviction.draws fits all _ (g.of_memory eq)
      · rw [eq]
        apply (exhausted_of_acquireFrame acquired).2
      · intro d
        rw [sizes, eq]
        apply words

/-- Where a frame is found there is a supply. -/
theorem Obtaining.supplied {frame : Nat} (h : Obtaining stores s (.ok frame) s')
    (g : Guarded out s) :
  Supplied s
  := by
  obtain ⟨x, draw, -⟩ := (h.draws fits all words g).exists_draw
  exact supplied_of_draw draw

/-- Once a frame is found, a page is mapped. -/
theorem Mapping.draws (h : Mapping stores page s answer s') (g : Guarded out s) :
  Draws id s answer s'
  := by
  have h' := h
  have succeeds := h'.succeeds fits all words g
  cases h with
  | noFrame obtaining =>
      obtain ⟨draw, unmoved⟩ := (obtaining.draws fits all words g).draw_eq
      exact .of_error draw unmoved
  | rejected obtaining unfit =>
      obtain ⟨frame, ok⟩ := succeeds (obtaining.supplied fits all words g)
      cases ok
  | uncleared obtaining cleared =>
      obtain ⟨frame, ok⟩ := succeeds (obtaining.supplied fits all words g)
      cases ok
  | mapped obtaining fit cleared =>
      obtain ⟨x, draw, left⟩ := (obtaining.draws fits all words g).exists_draw
      exact .of_ok draw (supply_install draw left (sameBut_clearFrame cleared).free)

/-- Once a frame is found, a page returns to it, and its slot is free again. -/
theorem Return.draws (h : Return stores page slot s answer s') (g : Guarded out s)
    (below : page < c.maxPages) (place : s.1.places page = some (.swap, slot)) :
  Draws (fun x => { x with slots := x.slots + 1 }) s answer s'
  := by
  have h' := h
  have hp : page < pageLimit := lt_of_lt_of_le below fits
  have succeeds (supplied : Supplied s) : ∃ frame, answer = .ok frame
    := h'.succeeds fits all words g supplied below place
  cases h with
  | noStore missing => cases (all .swap).symm.trans missing
  | noFrame obtaining =>
      obtain ⟨draw, unmoved⟩ := (obtaining.draws fits all words g).draw_eq
      exact .of_error draw unmoved
  | uncopied brought obtaining copied =>
      obtain ⟨frame, ok⟩ := succeeds (obtaining.supplied fits all words g)
      cases ok
  | rejected brought obtaining copied unfit =>
      obtain ⟨frame, ok⟩ := succeeds (obtaining.supplied fits all words g)
      cases ok
  | @returned p w w' frame entry brought obtaining copied fit =>
      obtain ⟨x, draw, left⟩ := (obtaining.draws fits all words g).exists_draw
      obtain ⟨fresh, g', kept⟩ := obtaining.delivers fits g
      have same := sameBut_copyPage copied
      obtain ⟨g₁, kept₁⟩ := g'.write fresh same
      have place' := (obtaining.swapsOut fits g.agreement).place_eq hp place
      have eq := memory_releaseFrame_of_isFrame (g₁.custody.isFrame (.page page) _ place')
        (g₁.custody.not_free_of_place place')
      have installed : supply (p.install page entry, w') = x
        := supply_install draw left same.free
      apply Draws.of_ok draw
      rw [← installed]
      simp [supply, eq, Memories.free_withFree]

/-- The fault of a page that is not resident. -/
theorem Resolution.exists_draws (h : Resolution stores page s answer s') (g : Guarded out s)
    (mode : c.mode = .paged) (below : page < c.maxPages)
    (absent : (s.1.entry page).isResident = false) :
  ∃ settle, Draws settle s answer s'
  := by
  cases h with
  | beyond above => exact absurd below (Nat.not_lt_of_le above)
  | identity below' mode' =>
      rw [mode] at mode'
      cases mode'
  | resident below' mode' place =>
      have resident := Entry.isResident_iff.mpr ⟨_, place⟩
      exact absurd (absent.symm.trans resident) Bool.false_ne_true
  | swapped below' mode' place fault =>
      apply Exists.intro
      apply fault.draws fits all words g below
      rw [places_of_lt (lt_of_lt_of_le below fits), place]
  | unmapped below' mode' place fault =>
      apply Exists.intro
      apply fault.draws fits all words g

end Pages

/-! ### Ranges of pages -/

section Ranges

variable {p p' : Paging c} {first other : Nat} {mapped : List Nat} {result : Except Error Unit}

/-- How many pages of a range are not mapped. -/
def absentCount (p : Paging c) (first count : Nat) : Nat :=
  (List.range' first count).countP fun page => !(p.entry page).isPresent

theorem absentCount_of_present (present : (p.entry first).isPresent = true) :
  p.absentCount first (count + 1) = p.absentCount (first + 1) count
  := by
  simp [absentCount, List.range'_succ, present]

theorem absentCount_of_absent (absent : (p.entry first).isPresent = false) :
  p.absentCount first (count + 1) = p.absentCount (first + 1) count + 1
  := by
  simp [absentCount, List.range'_succ, absent]

theorem absentCount_congr (same : ∀ page, first ≤ page → page < first + count →
    (p'.entry page).isPresent = (p.entry page).isPresent) :
  p'.absentCount first count = p.absentCount first count
  := by
  apply List.countP_congr
  intro page mem
  rw [List.mem_range'_1] at mem
  rw [same page mem.1 mem.2]

/-- A range is mapped page by page as long as the supply lasts.  A page that is evicted on the way
is still mapped, so the pages that are missing behind are the same. -/
theorem Progress.draws (h : Progress stores count page mapped s result s')
    (fits : c.maxPages ≤ pageLimit) (all : ∀ device, stores.has device = true)
    (words : ∀ device, sizes s device < Word.bound) (range : page + count ≤ c.maxPages)
    (g : Guarded out s) :
  Supply.drawAll (s.1.absentCount page count) (supply s) = result.map fun _ => supply s'
  := by
  induction h with
  | done => rfl
  | skipped present rest ih =>
      rw [absentCount_of_present present]
      apply ih words (by omega) g
  | undone absent mapping =>
      obtain ⟨draw, -⟩ := (mapping.draws fits all words g).draw_eq
      rw [absentCount_of_absent absent, Supply.drawAll, draw]
      rfl
  | @mapped count page frame mapped s s' s'' result absent mapping rest ih =>
      have below : page < c.maxPages := by omega
      have empty : s.1.places page = none := by
        rw [places_of_lt (lt_of_lt_of_le below fits)]
        apply Entry.place?_eq_none_iff.mpr absent
      obtain ⟨g', kept⟩ := mapping.keeps fits below empty g
      obtain ⟨x, draw, left⟩ := (mapping.draws fits all words g).exists_draw
      obtain rfl : supply s' = x := left
      have same : s'.1.absentCount (page + 1) count = s.1.absentCount (page + 1) count := by
        apply absentCount_congr
        intro other le lt
        rw [Bool.eq_iff_iff, mapping.isPresent_iff fits below g.agreement (by omega)]
        simp [show other ≠ page by omega]
      rw [absentCount_of_absent absent, Supply.drawAll, draw, ← same]
      apply ih _ (by omega) g'
      rw [kept.sizes_eq]
      apply words

/-- The pages that are mapped after a range was mapped. -/
theorem Progress.isPresent_iff_of_ok {u : Unit}
    (h : Progress stores count page mapped s (.ok u) s') (fits : c.maxPages ≤ pageLimit)
    (range : page + count ≤ c.maxPages) (a : s.1.Agreement) (ho : other < pageLimit) :
  (s'.1.entry other).isPresent = true ↔
    (s.1.entry other).isPresent = true ∨ page ≤ other ∧ other < page + count
  := by
  generalize ok : Except.ok u = result at h
  induction h with
  | done => simp
  | @skipped count page mapped s s' result present rest ih =>
      rw [ih (by omega) a ok]
      rcases eq_or_ne other page with rfl | ne
      · simp only [present, true_or]
      · have : page + 1 ≤ other ∧ other < page + 1 + count ↔
            page ≤ other ∧ other < page + (count + 1)
          := by omega
        rw [this]
  | undone absent mapping => cases ok
  | @mapped count page frame mapped s s' s'' result absent mapping rest ih =>
      have below : page < c.maxPages := by omega
      have absent' := Entry.isResident_eq_false_of_absent absent
      rw [ih (by omega) (mapping.agreement fits below absent' a) ok,
        mapping.isPresent_iff fits below a ho]
      simp only [Except.ok.injEq, exists_eq', and_true]
      have : other = page ∨ page + 1 ≤ other ∧ other < page + 1 + count ↔
          page ≤ other ∧ other < page + (count + 1)
        := by omega
      rw [or_assoc, this]

end Ranges

end Paging

end VirtualMemory
