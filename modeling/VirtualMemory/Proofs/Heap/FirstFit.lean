import VirtualMemory.Proofs.Heap.Separation

/-!
# The heap is a first-fit allocator

The reference takes bytes from the start of the first free region that has enough, and leaves
what is left of it in its place.  If no region has enough, the heap grows by the whole pages that
the bytes need and by one page more, and what is not taken becomes the first free region; if it
cannot grow by as much, there is no space.  The region that a handle was bound to before, or that
it gives up, becomes the first free region.

Where the addresses end at `2 ^ 63` or before, every state of a space allocates and frees as the
reference does, but for the one kind of configuration with such long pages that the heap can grow
by less than the reference says.
-/

namespace VirtualMemory

/-- A region that starts before it ends is not empty. -/
theorem Region.isEmpty_eq_false {r : Region} (lt : r.start < r.stop) :
  r.isEmpty = false
  := decide_eq_false (Nat.not_le_of_lt lt)

/-- A handle without a region is invalid. -/
theorem HandleTable.get_eq_error {t : HandleTable} {handle : Nat} {e : Error}
    (missing : t.get handle = .error e) :
  e = .invalidHandle handle
  := by
  rw [get] at missing
  split at missing
  · split at missing
    · exact (Except.error.inj missing).symm
    · cases missing
  · exact (Except.error.inj missing).symm

section FirstFit

variable {size start : Nat} {r taken : Region} {free left : List Region}

/-- Bytes are taken from the start of the first region that has enough.  A region that is taken as
a whole disappears, what is left of a longer one stays in its place. -/
inductive FirstFit (size : Nat) : List Region → Nat → List Region → Prop
  | whole {before after : List Region} {r : Region} (shorter : ∀ b ∈ before, b.length < size)
      (exact : r.length = size) :
    FirstFit size (before ++ r :: after) r.start (before ++ after)
  | part {before after : List Region} {r : Region} (shorter : ∀ b ∈ before, b.length < size)
      (longer : size < r.length) :
    FirstFit size (before ++ r :: after) r.start
      (before ++ ⟨r.start + size, r.stop⟩ :: after)

/-- A region that is too short is passed over. -/
theorem FirstFit.cons (h : FirstFit size free start left) (short : r.length < size) :
  FirstFit size (r :: free) start (r :: left)
  := by
  have shorter {before : List Region} (h : ∀ b ∈ before, b.length < size) :
      ∀ b ∈ r :: before, b.length < size
    := by
    intro b mem
    rcases List.mem_cons.mp mem with rfl | mem
    · apply short
    · apply h b mem
  cases h with
  | whole before exact => exact .whole (shorter before) exact
  | part before longer => exact .part (shorter before) longer

/-- There is no fit without regions. -/
theorem not_firstFit_nil :
  ¬ FirstFit size [] start left
  := by
  intro h
  generalize none : ([] : List Region) = free at h
  cases h with
  | whole shorter exact => simp at none
  | part shorter longer => simp at none

theorem firstFit_of_eq_some (fit : firstFit? size free = some (taken, left)) :
  taken = ⟨taken.start, taken.start + size⟩ ∧ FirstFit size free taken.start left
  := by
  induction free generalizing left with
  | nil => cases fit
  | cons r rest ih =>
      rw [firstFit?] at fit
      split at fit
      · next enough =>
          cases fit
          constructor
          · rfl
          · split
            · next exact => exact @FirstFit.whole size [] rest r (List.forall_mem_nil _) exact
            · next ne =>
                have longer : size < r.length := Nat.lt_of_le_of_ne enough (Ne.symm ne)
                exact @FirstFit.part size [] rest r (List.forall_mem_nil _) longer
      · next short =>
          obtain ⟨⟨taken', left'⟩, fit', eq⟩ := Option.map_eq_some_iff.mp fit
          cases eq
          obtain ⟨eq, first⟩ := ih fit'
          use eq
          apply first.cons (Nat.lt_of_not_le short)

theorem firstFit?_eq_none_iff :
  firstFit? size free = none ↔ ∀ r ∈ free, r.length < size
  := by
  induction free with
  | nil => simp [firstFit?]
  | cons r rest ih =>
      rw [firstFit?, List.forall_mem_cons, ← ih]
      split
      · next enough => simp [Nat.not_lt_of_le enough]
      · next short => simp [Nat.lt_of_not_le short]

end FirstFit

namespace Space

open AreaList Command

variable {c : Config} {ω : Type} {stores : Stores} {s s' : Space c × ω}
variable {heap : Area} {others : List Area} {direct size handle : Nat}

/-! ### The reference -/

/-- The number of bytes by which the heap grows: the whole pages that some bytes need, and one page
more. -/
def growthFor (c : Config) (size : Nat) : Nat :=
  (size + (c.pageSize - 1)) / c.pageSize * c.pageSize + c.pageSize

/-- Where the first of some bytes of the heap is, and the heap and the pages after they are
taken. -/
inductive Yields [Backing ω] (stores : Stores) (size : Nat) (heap : Area) (s : Space c × ω) :
    Except Error Nat → Area → Paging c × ω → Prop
  | fit {start : Nat} {left : List Region} (fit : FirstFit size heap.free start left) :
    Yields stores size heap s (.ok start) { heap with free := left } (s.1.paging, s.2)
  | grown {new : Nat} (full : ∀ r ∈ heap.free, r.length < size)
      (new_eq : new = heap.stop + growthFor c size) (word : new < Word.bound)
      (vacant : ¬ s.1.areas.Blocked heapId ⟨heap.stop, new⟩)
      (mapped : (Paging.mapAddresses stores heap.stop new (s.1.paging, s.2)).answer = .ok ())
      (slack : heap.stop + size < new) :
    Yields stores size heap s (.ok heap.stop)
      { heap with stop := new, brk := new, free := ⟨heap.stop + size, new⟩ :: heap.free }
      (Paging.mapAddresses stores heap.stop new (s.1.paging, s.2)).state
  | refused {t : Paging c × ω} (full : ∀ r ∈ heap.free, r.length < size)
      (unfit : ∀ new, new = heap.stop + growthFor c size → new < Word.bound →
        ¬ s.1.areas.Blocked heapId ⟨heap.stop, new⟩ →
        (Paging.mapAddresses stores heap.stop new (s.1.paging, s.2)).answer ≠ .ok ()) :
    Yields stores size heap s (.error .outOfSpace) heap t

/-- The free regions after the region that a handle is bound to, if any, becomes one. -/
def recycle (t : HandleTable) (handle : Nat) (free : List Region) : List Region :=
  match t.get handle with
  | .ok previous => previous :: free
  | .error _ => free

/-- One handle gets another region, or none. -/
structure Rebinds (handle : Nat) (region : Except Error Region) (t t' : HandleTable) : Prop where
  capacity : t'.capacity = t.capacity
  get_self : t'.get handle = region
  get_other : ∀ other, other ≠ handle → t'.get other = t.get other

/-- How the reference allocates. -/
inductive Allocates [Backing ω] (stores : Stores) (handle size : Nat) (heap : Area)
    (others : List Area) (s : Space c × ω) : Except Error Nat → Space c × ω → Prop
  | nothing (zero : size = 0) :
    Allocates stores handle size heap others s (.error .invalidSize) s
  | noHandle (some : size ≠ 0) (beyond : c.handleCapacity ≤ handle) :
    Allocates stores handle size heap others s (.error (.invalidHandle handle)) s
  | refused {e : Error} {heap' : Area} {s' : Space c × ω} (some : size ≠ 0)
      (below : handle < c.handleCapacity)
      (yields : Yields stores size heap s (.error e) heap' (s'.1.paging, s'.2))
      (same : SameTables s.1 s'.1) :
    Allocates stores handle size heap others s (.error e) s'
  | allocated {start : Nat} {heap' : Area} {s' : Space c × ω} (some : size ≠ 0)
      (below : handle < c.handleCapacity)
      (yields : Yields stores size heap s (.ok start) heap' (s'.1.paging, s'.2))
      (areas : s'.1.areas =
        ⟨{ heap' with free := recycle s.1.handles handle heap'.free } :: others⟩)
      (rebinds : Rebinds handle (.ok ⟨start, start + size⟩) s.1.handles s'.1.handles) :
    Allocates stores handle size heap others s (.ok start) s'

/-- How the reference frees. -/
inductive Frees (handle : Nat) (heap : Area) (others : List Area) (s : Space c × ω) :
    Except Error Region → Space c × ω → Prop
  | unbound (missing : s.1.handles.get handle = .error (.invalidHandle handle)) :
    Frees handle heap others s (.error (.invalidHandle handle)) s
  | freed {r : Region} {s' : Space c × ω} (found : s.1.handles.get handle = .ok r)
      (areas : s'.1.areas = ⟨{ heap with free := r :: heap.free } :: others⟩)
      (rebinds : Rebinds handle (.error (.invalidHandle handle)) s.1.handles s'.1.handles)
      (paging : s'.1.paging = s.1.paging) (world : s'.2 = s.2) :
    Frees handle heap others s (.ok r) s'

/-- The space allocates and frees as the reference does. -/
structure FirstFitting (ω : Type) [Backing ω] (s : Space c) (heap : Area) (others : List Area) :
    Prop where
  hasHeap : s.areas.HasHeap heap others
  allocates : ∀ (w : ω) (stores : Stores) (handle size : Nat),
    Allocates stores handle size heap others (s, w) (allocate stores handle size (s, w)).answer
      (allocate stores handle size (s, w)).state
  frees : ∀ (w : ω) (handle : Nat),
    Frees handle heap others (s, w) (free handle (s, w)).answer (free handle (s, w)).state

/-! ### The growth of the heap -/

section Growth

variable (valid : c.validate = .ok ())
include valid

/-- The growth of the reference holds the bytes that are taken, and more. -/
theorem lt_growthFor :
  size < growthFor c size
  := by
  have pos := Config.pageSize_pos valid
  have split := Nat.div_add_mod (size + (c.pageSize - 1)) c.pageSize
  have rest := Nat.mod_lt (size + (c.pageSize - 1)) pos
  rw [Nat.mul_comm] at split
  rw [growthFor]
  omega

/-- The increment that is asked for, rounded up, is the growth of the reference if that is a word,
and else the last whole page below the bound on words. -/
theorem alignUp_heapIncrement (word : c.pageSize < Word.bound) (some : size ≠ 0) :
  c.alignUp (heapIncrement c size) =
    if growthFor c size < Word.bound then growthFor c size else Word.bound - c.pageSize
  := by
  obtain ⟨k, -, hk⟩ := Config.exists_pageSize_eq valid
  have two : 2 ≤ c.pageSize := (Config.meets_of_validate valid .pageSize).1
  have pages : c.pageSize ∣ growthFor c size
    := Nat.dvd_add (Nat.dvd_mul_left _ _) (Nat.dvd_refl _)
  have more : size < growthFor c size := lt_growthFor valid
  have last : c.alignUp Word.greatest = Word.bound - c.pageSize := by
    apply Config.alignUp_of_cut hk word
    rw [Word.bound, Word.greatest]
    omega
  by_cases uncut : size + c.pageSize ≤ Word.bound
  · have sum : c.alignUp size + c.pageSize = growthFor c size := by
      rw [Config.alignUp_of_uncut hk (Nat.pos_of_ne_zero some) uncut, growthFor]
    split
    · next fits =>
        have room : growthFor c size + c.pageSize ≤ Word.bound := by
          by_contra beyond
          have := Config.bound_le_of_cut hk word (Nat.lt_of_not_le beyond) pages (Nat.le_refl _)
          omega
        rw [heapIncrement, Word.saturatingAdd_of_lt (by rwa [sum]), sum]
        apply (Config.isLeast_alignUp hk (by omega) room).unique
        constructor
        · use pages, Nat.le_refl _
        · intro _ whole
          apply whole.2
    · next beyond =>
        rw [heapIncrement, Word.saturatingAdd, sum, Nat.min_eq_right, last]
        rw [Word.bound] at beyond
        rw [Word.greatest]
        omega
  · have cut := Nat.lt_of_not_le uncut
    rw [if_neg, heapIncrement, Config.alignUp_of_cut hk word cut, Word.saturatingAdd,
      Nat.sub_add_cancel (Nat.le_of_lt word), Nat.min_eq_right, last]
    · decide
    · apply Nat.not_lt_of_le
      apply Config.bound_le_of_cut hk word cut pages (Nat.le_of_lt more)

end Growth

/-! ### Taking bytes -/

/-- A region that is not empty becomes the first free one. -/
theorem enlistFree_of_busy {r : Region} (busy : r.isEmpty = false) :
  heap.enlistFree r = { heap with free := r :: heap.free }
  := by
  rw [Area.enlistFree, busy]
  rfl

section Steps

variable [Backing ω] (valid : c.validate = .ok ()) (bounded : c.maxPages * c.pageSize ≤ 2 ^ 63)
include valid bounded

/-- If the growth of the reference leads to a word, it is what is asked for. -/
theorem add?_of_word (some : size ≠ 0) (word : heap.stop + growthFor c size < Word.bound) :
  Word.add? heap.stop (c.alignUp (heapIncrement c size)) = .some (heap.stop + growthFor c size)
  := by
  have growth : growthFor c size < Word.bound := lt_of_le_of_lt (Nat.le_add_left _ _) word
  rw [alignUp_heapIncrement valid (Config.pageSize_lt_bound valid bounded) some, if_pos growth]
  exact Word.add?_eq_some_iff.mpr ⟨word, rfl⟩

/-- If the heap grows at all, it grows as the reference says: up to the last whole page below the
bound on words it cannot grow, since that is beyond the pages. -/
theorem stop_eq_of_mapped {new : Nat} (some : size ≠ 0) (room : Roomy c heap) {t : Paging c × ω}
    (a : t.1.Agreement)
    (sum : Word.add? heap.stop (c.alignUp (heapIncrement c size)) = .some new)
    (mapped : (Paging.mapAddresses stores heap.stop new t).answer = .ok ()) :
  new = heap.stop + growthFor c size
  := by
  have narrow := narrow_of_mapped valid bounded room a sum mapped
  have below := stop_le_of_mapped valid bounded (lt_of_sum valid sum) mapped
  obtain ⟨-, rfl⟩ := Word.add?_eq_some_iff.mp sum
  have closed := alignUp_heapIncrement valid (Config.pageSize_lt_bound valid bounded) some
  rw [closed] at below ⊢
  split at below
  · next word => rw [if_pos word]
  · rw [Word.bound] at narrow below
    omega

/-- If the heap does not grow, the reference does not let it grow either. -/
theorem unfit_of_growth {l : AreaList} {t : Paging c × ω} {after : AreaList × Paging c × ω}
    {e : Error} (has : l.HasHeap heap others) (some : size ≠ 0)
    (growth : Growth c heapId (heapIncrement c size) (Paging.mapAddresses stores) (l, t)
      (.error e) after) :
  ∀ new, new = heap.stop + growthFor c size → new < Word.bound →
    ¬ l.Blocked heapId ⟨heap.stop, new⟩ →
    (Paging.mapAddresses stores heap.stop new t).answer ≠ .ok ()
  := by
  rintro new rfl word vacant mapped
  have sum := add?_of_word valid bounded some word
  cases growth with
  | noArea absent => cases has.lookup?.symm.trans absent
  | beyond found sum' =>
      cases has.lookup?.symm.trans found
      cases sum.symm.trans sum'
  | blocked found sum' blocked =>
      cases has.lookup?.symm.trans found
      cases sum.symm.trans sum'
      exact vacant blocked
  | unmapped found sum' vacant mapped' =>
      cases has.lookup?.symm.trans found
      cases sum.symm.trans sum'
      cases mapped.symm.trans mapped'

/-- Bytes are taken as the reference says. -/
theorem Taking.yields {answer : Except Error Region}
    (taking : Taking stores size heap others s answer s')
    (account : Account direct [] s.1 heap others) (a : s.1.paging.Agreement) (some : size ≠ 0) :
  ∃ heap', Yields stores size heap s (answer.map Region.start) heap' (s'.1.paging, s'.2) ∧
    s'.1.areas = ⟨heap' :: others⟩ ∧
    ∀ r, answer = .ok r → r = ⟨r.start, r.start + size⟩
  := by
  have has := account.ledger.hasHeap
  have none_enough (full : heap.firstFit? size = none) : ∀ r ∈ heap.free, r.length < size
    := firstFit?_eq_none_iff.mp (Option.map_eq_none_iff.mp full)
  cases taking with
  | @fit left taken fit =>
      obtain ⟨⟨taken', left'⟩, fit', eq⟩ := Option.map_eq_some_iff.mp fit
      cases eq
      obtain ⟨taken_eq, first⟩ := firstFit_of_eq_some fit'
      apply Exists.intro
      use .fit first, rfl
      rintro r ⟨⟩
      exact taken_eq
  | @refused e t full nonzero growth =>
      have unfit := unfit_of_growth valid bounded has some growth
      use heap, .refused (none_enough full) unfit
      constructor
      · show s.1.areas = ⟨heap :: others⟩
        rw [← has.areas]
      · nofun
  | ungrown full zero => exact absurd zero (heapIncrement_ne_zero (Config.pageSize_pos valid))
  | @grown new full nonzero sum vacant mapped =>
      have new_eq : new = heap.stop + growthFor c size
        := stop_eq_of_mapped valid bounded some account.room (t := (s.1.paging, s.2)) a sum mapped
      have word : new < Word.bound := by
        obtain ⟨lt, eq⟩ := Word.add?_eq_some_iff.mp sum
        omega
      have slack : heap.stop + size < new := by
        have more : size < growthFor c size := lt_growthFor valid
        omega
      rw [account.ledger.brk_eq, grownRegion, Word.wrap_of_lt (lt_trans slack word)]
      apply Exists.intro
      use .grown (none_enough full) new_eq word vacant mapped slack
      constructor
      · rw [enlistFree_of_busy]
        · rfl
        · apply Region.isEmpty_eq_false slack
      · rintro r ⟨⟩
        rfl

end Steps

/-! ### Handles -/

/-- A handle is bound to a region that is not empty. -/
theorem rebinds_bound {s : Space c} {r : Region} (filled : r.isEmpty = false) :
  Rebinds handle (.ok r) s.handles (s.bound handle r).handles
  := by
  constructor
  · rfl
  · simp [HandleTable.get, bound, Slots.get?_insert, filled]
  · intro other ne
    apply get_bound_of_ne ne

/-- A handle is bound to the bytes that are taken. -/
theorem Taking.rebinds [Backing ω] {r : Region}
    (taking : Taking stores size heap others s (.ok r) s') (eq : r = ⟨r.start, r.start + size⟩)
    (some : size ≠ 0) :
  Rebinds handle (.ok ⟨r.start, r.start + size⟩) s.1.handles (s'.1.bound handle r).handles
  := by
  rw [← eq, ← taking.handles_eq]
  apply rebinds_bound
  rw [eq]
  apply Region.isEmpty_eq_false (Nat.lt_add_of_pos_right (Nat.pos_of_ne_zero some))

theorem rebinds_unbound {s : Space c} :
  Rebinds handle (.error (.invalidHandle handle)) s.handles (s.unbound handle).handles
  := by
  constructor
  · rfl
  · simp [HandleTable.get, unbound, Slots.get?_erase]
  · intro other ne
    apply get_unbound_of_ne ne

theorem recycle_of_idle {t : HandleTable} {free : List Region}
    (idle : ∀ previous, t.bindings.get? handle = .some previous → previous.isEmpty = true) :
  recycle t handle free = free
  := by
  rw [recycle, HandleTable.get]
  rcases found : t.bindings.get? handle with - | previous
  · rfl
  · dsimp only
    rw [if_pos (idle previous found)]

theorem recycle_of_some {t : HandleTable} {previous : Region} {free : List Region}
    (found : t.bindings.get? handle = .some previous) (busy : previous.isEmpty = false) :
  recycle t handle free = previous :: free
  := by
  simp [recycle, HandleTable.get, found, busy]

/-! ### Allocating and freeing -/

theorem Allocation.allocates [Backing ω] {answer : Except Error Nat}
    (allocation : Allocation stores handle size heap others s answer s')
    (valid : c.validate = .ok ()) (bounded : c.maxPages * c.pageSize ≤ 2 ^ 63)
    (account : Account direct [] s.1 heap others) (a : s.1.paging.Agreement) :
  Allocates stores handle size heap others s answer s'
  := by
  cases allocation with
  | nothing zero => exact .nothing zero
  | noHandle some beyond => exact .noHandle some beyond
  | untaken some below taking =>
      obtain ⟨heap', yields, -, -⟩ := taking.yields valid bounded account a some
      exact .refused some below yields taking.tables_eq
  | @fresh s' r some below taking idle =>
      obtain ⟨heap', yields, areas, eq⟩ := taking.yields valid bounded account a some
      refine .allocated some below yields ?_ (taking.rebinds (eq r rfl) some)
      rw [recycle_of_idle idle]
      apply areas
  | @rebound s' r previous heap₁ some below taking has found busy =>
      obtain ⟨heap', yields, areas, eq⟩ := taking.yields valid bounded account a some
      have same : heap₁ :: others = heap' :: others
        := has.areas.symm.trans (congrArg AreaList.areas areas)
      obtain rfl := (List.cons.inj same).1
      refine .allocated some below yields ?_ (taking.rebinds (eq r rfl) some)
      rw [recycle_of_some found busy, ← enlistFree_of_busy busy]
      rfl

theorem Freeing.frees {answer : Except Error Region}
    (freeing : Freeing handle heap others s answer s') :
  Frees handle heap others s answer s'
  := by
  cases freeing with
  | unbound missing =>
      obtain rfl := HandleTable.get_eq_error missing
      exact .unbound missing
  | @freed r found =>
      refine .freed found ?_ rebinds_unbound rfl rfl
      rw [← enlistFree_of_busy (HandleTable.isEmpty_of_get found)]
      rfl

/-- Every state that a new space reaches allocates and frees as the reference does. -/
theorem Reaches.firstFitting [Backing ω] (valid : c.validate = .ok ())
    (bounded : c.maxPages * c.pageSize ≤ 2 ^ 63)
    (room : 2 * c.pageSize < Word.bound ∨ c.mode = .paged ∨ 0 < c.initialHeapSize)
    {s : Space c} (reached : Reaches c ω s direct) :
  ∃ heap others, FirstFitting ω s heap others
  := by
  obtain ⟨⟨heap, others, account⟩, agreement⟩ := reached.account valid bounded room
  have has := account.ledger.hasHeap
  use heap, others, has
  · intro w stores handle size
    have ends : Allocation stores handle size heap others (s, w) _ _
      := allocate_ends has account.ledger.capacity
    exact ends.allocates valid bounded account agreement
  · intro w handle
    have ends : Freeing handle heap others (s, w) _ _ := free_ends has
    exact ends.frees

/-- If a page is half of the words, the reference does not let an empty heap grow. -/
theorem not_firstFitting_wide [Backing ω] (valid : c.validate = .ok ()) (mode : c.mode = .identity)
    (wide : c.pageSize = 2 ^ 63) (empty : c.initialHeapSize = 0) (w : ω) :
  ¬ FirstFitting ω (new c) heap others
  := by
  intro fitting
  have free : heap.free = [] := by
    have first : (new c).areas.areas = [.spanning heapId 0 0] := by
      simp [new, Area.enlistFree, empty, Region.isEmpty, AreaList.single]
    have same := fitting.hasHeap.areas.symm.trans first
    rw [(List.cons.inj same).1]
    rfl
  have idle : (new c).handles.get 0 = .error (.invalidHandle 0) := rfl
  obtain ⟨heap', others', -, -, handles⟩ := exists_heap_allocate_wide valid mode wide empty {} w
  have allocates := fitting.allocates w {} 0 (2 ^ 63 + 1)
  have bound : (allocate {} 0 (2 ^ 63 + 1) (new c, w)).state.1.handles.get 0 =
      .ok ⟨0, 2 ^ 63 + 1⟩
    := by
    rw [handles]
    rfl
  generalize (allocate {} 0 (2 ^ 63 + 1) (new c, w)).answer = answer at allocates
  generalize (allocate {} 0 (2 ^ 63 + 1) (new c, w)).state = s' at allocates bound
  cases allocates with
  | nothing zero => cases zero
  | noHandle some beyond => cases idle.symm.trans bound
  | refused some below yields same =>
      rw [same.handles] at bound
      cases idle.symm.trans bound
  | allocated some below yields areas rebinds =>
      generalize (s'.1.paging, s'.2) = t at yields
      cases yields with
      | fit fit =>
          rw [free] at fit
          exact not_firstFit_nil fit
      | grown full new_eq word vacant mapped slack =>
          have growth : growthFor c (2 ^ 63 + 1) = 3 * 2 ^ 63 := by
            rw [growthFor, wide]
            decide
          rw [growth] at new_eq
          rw [Word.bound] at word
          omega

/-- Where the addresses end at `2 ^ 63` or before, every state allocates and frees as the reference
does, but for the one kind of configuration with such long pages that a heap can grow by less than
the reference says. -/
theorem firstFitting_iff (valid : c.validate = .ok ())
    (bounded : c.maxPages * c.pageSize ≤ 2 ^ 63) :
  (∀ (ω : Type) [Backing ω] (s : Space c) (direct : Nat), Reaches c ω s direct →
      ∃ heap others, FirstFitting ω s heap others) ↔
    ¬ (c.mode = .identity ∧ c.initialHeapSize = 0 ∧ c.pageSize = 2 ^ 63)
  := by
  constructor
  · rintro all ⟨mode, empty, wide⟩
    have world : Machine := ⟨⟨⟨#[], [], 0⟩, {}⟩, ⟨⟨#[], [], 0⟩, {}⟩⟩
    obtain ⟨heap, others, fitting⟩ := all Machine _ _ Reaches.start
    exact not_firstFitting_wide valid mode wide empty world fitting
  · intro regular ω _ s direct reached
    exact reached.firstFitting valid bounded (roomy_of_regular valid bounded regular)

/-- With the default settings every state allocates and frees as the reference does, but not with
one page that is half of the words. -/
theorem firstFitting_default_and_not_widePage :
  (∀ (ω : Type) [Backing ω] (s : Space {}) (direct : Nat), Reaches {} ω s direct →
    ∃ heap others, FirstFitting ω s heap others) ∧
  ¬ ∀ (ω : Type) [Backing ω] (s : Space widePage) (direct : Nat), Reaches widePage ω s direct →
    ∃ heap others, FirstFitting ω s heap others
  := by
  constructor
  · apply (firstFitting_iff (by decide) (by decide)).mpr
    decide
  · rw [firstFitting_iff (by decide +kernel) (by decide)]
    decide

end Space

end VirtualMemory
