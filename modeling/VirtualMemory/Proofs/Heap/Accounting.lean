import VirtualMemory.Proofs.Config.Geometry
import VirtualMemory.Proofs.Heap.Ledger
import VirtualMemory.Store.Faults

/-!
# Every byte of the heap is accounted for

In every state of an address space the live regions and the free regions of the heap share no
address, and together they have as many addresses as the heap, less those by which requests made
it grow without an allocation.  This holds whatever the stores answer, for configurations
whose addresses end at `2 ^ 63` or before, with one exception: if a page alone has as many bytes,
pages are not translated and the heap is empty at first, then the first allocation of more
than a page gets a region that ends behind the heap, since the rounding of its size stops at the
greatest word.
-/

namespace VirtualMemory.Space

open AreaList Command

variable {c : Config} {ω : Type} [Backing ω] {stores : Stores} {s s' : Space c × ω}
variable {heap : Area} {others : List Area} {direct size handle stop : Nat}
variable {pending : List Region} {command : Command}

/-! ### Growth has room -/

/-- What the heap is asked to grow by covers what is taken, and more, if it stays below the middle
of the words. -/
theorem lt_alignUp_heapIncrement (valid : c.validate = .ok ())
    (narrow : 2 * c.pageSize < Word.bound)
    (half : c.alignUp (heapIncrement c size) ≤ 2 ^ 63) :
  size < c.alignUp (heapIncrement c size)
  := by
  have pos := Config.pageSize_pos valid
  rw [Word.bound] at narrow
  have outer : heapIncrement c size ≤ c.alignUp (heapIncrement c size) := by
    apply Config.le_alignUp valid
    rw [Word.bound]
    omega
  have sum : heapIncrement c size = c.alignUp size + c.pageSize := by
    have cut : heapIncrement c size = min (c.alignUp size + c.pageSize) (2 ^ 64 - 1) := rfl
    omega
  have inner : size ≤ c.alignUp size := by
    apply Config.le_alignUp valid
    rw [Word.bound]
    omega
  omega

/-- An area that grows ends further up. -/
theorem lt_of_sum (valid : c.validate = .ok ()) {start : Nat}
    (sum : Word.add? start (c.alignUp size) = some stop) :
  start < stop
  := by
  obtain ⟨-, rfl⟩ := Word.add?_eq_some_iff.mp sum
  have pos := Config.pageSize_pos valid
  have step := Config.pageSize_le_alignUp (c := c) (n := size)
  omega

/-- Whether one page leaves room for another one among the words, pages are translated, or the
heap has bytes: if none of these holds, the heap may grow by less than is taken. -/
def Roomy (c : Config) (heap : Area) : Prop :=
  2 * c.pageSize < Word.bound ∨ c.mode = .paged ∨ 0 < heap.stop

theorem Roomy.mono {heap' : Area} (h : Roomy c heap) (lt : heap.stop < heap'.stop) :
  Roomy c heap'
  := by
  rcases h with narrow | mode | some
  · left
    apply narrow
  · right; left
    apply mode
  · right; right
    apply lt_trans some lt

section Bounded

variable (valid : c.validate = .ok ()) (bounded : c.maxPages * c.pageSize ≤ 2 ^ 63)
include valid bounded

/-- What is mapped ends at the end of the last page or before. -/
theorem stop_le_of_mapped {start : Nat} {t : Paging c × ω} (lt : start < stop)
    (mapped : (Paging.mapAddresses stores start stop t).answer = .ok ()) :
  stop ≤ c.maxPages * c.pageSize
  := by
  have mapping : Paging.RangeMapping stores start stop t _ _ := Paging.mapAddresses_ends
  rw [mapped] at mapping
  have word := Config.pageSize_lt_bound valid bounded
  have last := (Config.pageOf_lt_iff valid word).mp (mapping.below lt)
  omega

/-- A heap that is roomy grows only if one page leaves room for another one among the words. -/
theorem narrow_of_mapped (room : Roomy c heap) {t : Paging c × ω} (a : t.1.Agreement)
    (sum : Word.add? heap.stop (c.alignUp (heapIncrement c size)) = some stop)
    (mapped : (Paging.mapAddresses stores heap.stop stop t).answer = .ok ()) :
  2 * c.pageSize < Word.bound
  := by
  have lt := lt_of_sum valid sum
  have step := Config.pageSize_le_alignUp (c := c) (n := heapIncrement c size)
  have below := stop_le_of_mapped valid bounded lt mapped
  obtain ⟨-, rfl⟩ := Word.add?_eq_some_iff.mp sum
  rcases room with narrow | mode | some
  · apply narrow
  · have mapping : Paging.RangeMapping stores heap.stop
        (heap.stop + c.alignUp (heapIncrement c size)) t _ _
      := Paging.mapAddresses_ends
    rw [mapped] at mapping
    apply mapping.narrow lt mode (Config.meets_of_validate valid .maxPages).2 a
  · rw [Word.bound]
    omega

/-- The heap grows by more than is taken. -/
theorem lt_of_mapped (room : Roomy c heap) {t : Paging c × ω} (a : t.1.Agreement)
    (sum : Word.add? heap.stop (c.alignUp (heapIncrement c size)) = some stop)
    (mapped : (Paging.mapAddresses stores heap.stop stop t).answer = .ok ()) :
  heap.stop + size < stop
  := by
  have below := stop_le_of_mapped valid bounded (lt_of_sum valid sum) mapped
  have narrow := narrow_of_mapped valid bounded room a sum mapped
  obtain ⟨-, rfl⟩ := Word.add?_eq_some_iff.mp sum
  have enough : size < c.alignUp (heapIncrement c size) := by
    apply lt_alignUp_heapIncrement valid narrow
    omega
  omega

/-- The end of what is taken is a word. -/
theorem grownRegion_of_mapped (room : Roomy c heap) {t : Paging c × ω} (a : t.1.Agreement)
    (sum : Word.add? heap.stop (c.alignUp (heapIncrement c size)) = some stop)
    (mapped : (Paging.mapAddresses stores heap.stop stop t).answer = .ok ()) :
  grownRegion heap.stop size = ⟨heap.stop, heap.stop + size⟩
  := by
  have lt := lt_of_mapped valid bounded room a sum mapped
  have word := (Word.add?_eq_some_iff.mp sum)
  rw [grownRegion, Word.wrap_of_lt]
  omega

end Bounded

/-! ### The account -/

/-- The ledger of a space of which requests made the heap grow by `direct` bytes. -/
structure Account (direct : Nat) (pending : List Region) (s : Space c) (heap : Area)
    (others : List Area) : Prop where
  ledger : Ledger (heap.stop - direct) pending s heap others
  direct_le : direct ≤ heap.stop
  stop_le : heap.stop ≤ c.maxPages * c.pageSize
  room : Roomy c heap

theorem account_new (valid : c.validate = .ok ())
    (room : 2 * c.pageSize < Word.bound ∨ c.mode = .paged ∨ 0 < c.initialHeapSize) :
  ∃ heap, Account 0 [] (new c) heap []
  := by
  obtain ⟨heap, ledger, stop⟩ := ledger_new (c := c)
  use heap
  constructor
  · rw [stop]
    apply ledger
  · apply Nat.zero_le
  · rw [stop]
    apply le_trans (Config.meets_of_validate valid .initialHeapSize) (Nat.min_le_left _ _)
  · rw [Roomy, stop]
    apply room

theorem Account.of_tables {s s' : Space c} (h : Account direct pending s heap others)
    (same : SameTables s s') :
  Account direct pending s' heap others
  := ⟨h.ledger.of_tables same.areas same.handles, h.direct_le, h.stop_le, h.room⟩

/-- The account stays when regions move within the heap. -/
theorem Account.moved {s s' : Space c} {heap' : Area} {others' : List Area}
    {pending' : List Region} (h : Account direct pending s heap others)
    (ledger : Ledger (heap.stop - direct) pending' s' heap' others')
    (stop : heap'.stop = heap.stop) :
  Account direct pending' s' heap' others'
  := by
  constructor
  · rw [stop]
    apply ledger
  · rw [stop]
    apply h.direct_le
  · rw [stop]
    apply h.stop_le
  · rw [Roomy, stop]
    apply h.room

theorem Account.enlist {s : Space c} {r : Region}
    (h : Account direct (r :: pending) s heap others) :
  Account direct pending (s.freed heap others r) (heap.enlistFree r) others
  := by
  obtain ⟨ledger, stop⟩ := h.ledger.enlist
  apply h.moved ledger stop

/-- The heap grows without an allocation. -/
theorem Account.raise {s : Space c} (h : Account direct pending s heap others)
    (lt : heap.stop < stop) (below : stop ≤ c.maxPages * c.pageSize) :
  Account (direct + (stop - heap.stop)) pending
    ⟨⟨heap.extendTo stop :: others⟩, s.handles, s.paging⟩ (heap.extendTo stop) others
  := by
  have le := h.direct_le
  constructor
  · have total : stop - (direct + (stop - heap.stop)) = heap.stop - direct := by omega
    show Ledger (stop - (direct + (stop - heap.stop))) _ _ _ _
    rw [total]
    apply h.ledger.raise (Nat.le_of_lt lt)
  · show direct + (stop - heap.stop) ≤ stop
    omega
  · apply below
  · apply h.room.mono lt

section Steps

variable (valid : c.validate = .ok ()) (bounded : c.maxPages * c.pageSize ≤ 2 ^ 63)

include valid bounded in
/-- What is taken of the heap is accounted for. -/
theorem Account.taking {r : Region} (h : Account direct [] s.1 heap others)
    (a : s.1.paging.Agreement) (some : size ≠ 0)
    (taking : Taking stores size heap others s (.ok r) s') :
  ∃ heap', Account direct [r] s'.1 heap' others
  := by
  cases taking with
  | fit fit =>
      obtain ⟨ledger, stop⟩ := h.ledger.take (Nat.pos_of_ne_zero some) fit
      apply Exists.intro
      apply h.moved ledger stop
  | ungrown full zero => exact absurd zero (heapIncrement_ne_zero (Config.pageSize_pos valid))
  | @grown stop full nonzero sum vacant mapped =>
      have lt := lt_of_mapped valid bounded h.room (t := (s.1.paging, s.2)) a sum mapped
      have region := grownRegion_of_mapped valid bounded h.room (t := (s.1.paging, s.2)) a sum
        mapped
      have below := stop_le_of_mapped valid bounded (by omega) mapped
      have pos : 0 < size := Nat.pos_of_ne_zero some
      have lt' : heap.stop < stop := by omega
      have lower : heap.stop < heap.stop + size := by omega
      have cut := (h.ledger.extend lt').cut lower lt
      have le := h.direct_le
      have account : Account direct [⟨heap.stop + size, stop⟩, ⟨heap.stop, heap.stop + size⟩]
          ⟨⟨heap.extendTo stop :: others⟩, s.1.handles, s.1.paging⟩ (heap.extendTo stop) others
        := by
        constructor
        · have total : heap.stop - direct + (stop - heap.stop) = stop - direct := by omega
          rw [total] at cut
          apply cut
        · show direct ≤ stop
          omega
        · apply below
        · apply h.room.mono
          show heap.stop < stop
          omega
      rw [h.ledger.brk_eq, region]
      apply Exists.intro
      exact account.enlist.of_tables ⟨rfl, rfl⟩

include valid bounded in
theorem Account.allocation {answer : Except Error Nat} (h : Account direct [] s.1 heap others)
    (a : s.1.paging.Agreement)
    (allocation : Allocation stores handle size heap others s answer s') :
  ∃ heap', Account direct [] s'.1 heap' others
  := by
  cases allocation with
  | nothing zero =>
      use heap
  | noHandle some beyond =>
      use heap
  | untaken some below taking =>
      use heap
      apply h.of_tables taking.tables_eq
  | @fresh s' r some below taking idle =>
      obtain ⟨heap', h'⟩ := h.taking valid bounded a some taking
      rw [← taking.handles_eq] at idle
      use heap'
      apply h'.moved (h'.ledger.bind idle) rfl
  | @rebound s' r previous heap₁ some below taking has found busy =>
      obtain ⟨heap', h'⟩ := h.taking valid bounded a some taking
      obtain ⟨rfl, -⟩ := List.cons.inj (h'.ledger.hasHeap.areas.symm.trans has.areas)
      rw [← taking.handles_eq] at found
      have rebound := h'.moved (h'.ledger.rebind found busy) rfl
      apply Exists.intro
      apply rebound.enlist

omit [Backing ω] in
theorem Account.freeing {answer : Except Error Region} (h : Account direct [] s.1 heap others)
    (freeing : Freeing handle heap others s answer s') :
  ∃ heap', Account direct [] s'.1 heap' others
  := by
  cases freeing with
  | unbound missing =>
      use heap
  | @freed r found =>
      have unbound := h.moved (h.ledger.unbind found) rfl
      apply Exists.intro
      apply unbound.enlist

/-- The address at which the heap ends. -/
def heapStop (s : Space c) : Nat := ((s.areas.lookup? heapId).map Area.stop).getD 0

omit [Backing ω] in
theorem heapStop_eq {s : Space c} (h : s.areas.HasHeap heap others) :
  s.heapStop = heap.stop
  := by
  rw [heapStop, h.lookup?]
  rfl

/-- The number of bytes by which a command made the heap grow without an allocation. -/
def directGrowth (command : Command) (s s' : Space c) : Nat :=
  match command with
  | .serve (.growArea id _) => if id = heapId then s'.heapStop - s.heapStop else 0
  | _ => 0

omit [Backing ω] in
theorem directGrowth_eq_zero {s s' : Space c} (same : s'.heapStop = s.heapStop) :
  directGrowth command s s' = 0
  := by
  unfold directGrowth
  split
  · rw [same, Nat.sub_self, ite_self]
  · rfl

include valid bounded in
/-- A request makes the heap, or another area, grow. -/
theorem Account.growth {id : Nat} {answer : Except Error Region} {areas : AreaList}
    {t : Paging c × ω} (h : Account direct [] s.1 heap others)
    (growth : Growth c id size (Paging.mapAddresses stores) (s.1.areas, s.1.paging, s.2) answer
      (areas, t)) :
  ∃ heap' others', Account
    (direct + directGrowth (.serve (.growArea id size)) s.1 ⟨areas, s.1.handles, t.1⟩) []
    (⟨areas, s.1.handles, t.1⟩ : Space c) heap' others'
  := by
  rcases growth.heap_cases h.ledger.hasHeap with
    ⟨others', has, kept⟩ | ⟨rfl, stop, sum, mapped, rfl⟩
  · have same : heapStop (⟨areas, s.1.handles, t.1⟩ : Space c) = s.1.heapStop :=
      (heapStop_eq has).trans (heapStop_eq h.ledger.hasHeap).symm
    rw [directGrowth_eq_zero same]
    use heap, others'
    apply h.moved (h.ledger.withOthers has (h.ledger.vacant_of_growth kept)) rfl
  · have lt := lt_of_sum valid sum
    have account := h.raise lt (stop_le_of_mapped valid bounded lt mapped)
    have has : (⟨⟨heap.extendTo stop :: others⟩, s.1.handles, t.1⟩ : Space c).areas.HasHeap
        (heap.extendTo stop) others
      := account.ledger.hasHeap
    rw [directGrowth, if_pos rfl, heapStop_eq h.ledger.hasHeap, heapStop_eq has]
    apply Exists.intro
    use others
    exact account.of_tables ⟨rfl, rfl⟩

include valid bounded in
/-- Every command keeps the account. -/
theorem Account.run (h : Account direct [] s.1 heap others) (a : s.1.paging.Agreement) :
  ∃ heap' others', Account
    (direct + directGrowth command s.1 (command.run stores s).state.1) []
    (command.run stores s).state.1 heap' others'
  := by
  have change : Change stores heap others s command _ _
    := run_ends h.ledger.hasHeap h.ledger.capacity
  generalize (command.run stores s).answer = answer at change
  generalize (command.run stores s).state = s' at change ⊢
  cases change with
  | access access same =>
      have stop_eq : s'.1.heapStop = s.1.heapStop := by rw [heapStop, same.areas, heapStop]
      rw [directGrowth_eq_zero stop_eq]
      use heap, others
      apply h.of_tables same
  | allocation allocation =>
      obtain ⟨heap', h'⟩ := h.allocation valid bounded a allocation
      use heap', others
      apply h'
  | freeing freeing =>
      obtain ⟨heap', h'⟩ := h.freeing freeing
      use heap', others
      apply h'
  | insertion insertion =>
      obtain ⟨others', has, kept⟩ := insertion.exists_heap h.ledger.hasHeap
      have vacant := h.ledger.vacant_of_insertion rfl kept
      use heap, others'
      apply h.moved (h.ledger.withOthers has vacant) rfl
  | growth growth => apply h.growth valid bounded growth

end Steps

/-! ### Runs of one space -/

/-- The states that a new space reaches, each with the number of bytes by which requests made the
heap grow.  Before each command the world may be changed, and any stores may be brought. -/
inductive Reaches (c : Config) (ω : Type) [Backing ω] : Space c → Nat → Prop
  | start : Reaches c ω (new c) 0
  | step {s : Space c} {direct : Nat} (reached : Reaches c ω s direct) (w : ω) (stores : Stores)
      (command : Command) :
    Reaches c ω (command.run stores (s, w)).state.1
      (direct + directGrowth command s (command.run stores (s, w)).state.1)

/-- The live regions and the free regions of the heap are not empty, lie in the heap and share no
address, and they have as many addresses as the heap, less those by which requests made it grow;
no other area has free regions. -/
structure Accounted (s : Space c) (heap : Area) (direct : Nat) : Prop where
  found : s.areas.lookup? heapId = some heap
  brk_eq : heap.brk = heap.stop
  vacant : ∀ a ∈ s.areas.areas, a.id ≠ heapId → a.free = []
  direct_le : direct ≤ heap.brk
  tiling : Tiling heap.brk (heap.brk - direct) (s.handles.live.map Prod.snd ++ heap.free)

theorem Account.accounted {s : Space c} (h : Account direct [] s heap others) :
  s.Accounted heap direct
  := by
  use h.ledger.hasHeap.lookup?, h.ledger.brk_eq
  · intro a mem ne
    rw [h.ledger.hasHeap.areas] at mem
    rcases List.mem_cons.mp mem with rfl | mem
    · exact absurd h.ledger.hasHeap.id ne
    · apply h.ledger.vacant a mem
  · rw [h.ledger.brk_eq]
    apply h.direct_le
  · rw [h.ledger.brk_eq]
    apply h.ledger.tiling

theorem Reaches.account (valid : c.validate = .ok ())
    (bounded : c.maxPages * c.pageSize ≤ 2 ^ 63)
    (room : 2 * c.pageSize < Word.bound ∨ c.mode = .paged ∨ 0 < c.initialHeapSize)
    {s : Space c} (h : Reaches c ω s direct) :
  (∃ heap others, Account direct [] s heap others) ∧ s.paging.Agreement
  := by
  induction h with
  | start =>
      obtain ⟨heap, account⟩ := account_new valid room
      constructor
      · use heap, []
      · apply Paging.agreement_empty
  | @step s direct reached w stores command ih =>
      obtain ⟨⟨heap, others, account⟩, agreement⟩ := ih
      use Account.run valid bounded (s := (s, w)) account agreement
      apply agreement_run (Config.meets_of_validate valid .maxPages).2 (s := (s, w)) agreement

/-! ### The exception -/

section Wide

variable (valid : c.validate = .ok ()) (mode : c.mode = .identity) (wide : c.pageSize = 2 ^ 63)
include valid wide

/-- If a page is half of the words, all sizes are rounded to one page. -/
theorem alignUp_wide :
  c.alignUp size = 2 ^ 63
  := by
  rw [Config.alignUp_eq valid, wide, Word.greatest]
  omega

include mode

/-- An empty heap that is the only area grows to one page. -/
theorem growth_wide {answer : Except Error Region} {t : Paging c × ω}
    {after : AreaList × Paging c × ω}
    (growth : Growth c heapId size (Paging.mapAddresses stores)
      (⟨[.spanning heapId 0 0]⟩, t) answer after) :
  ∃ r, answer = .ok r
  := by
  have lookup : (⟨[.spanning heapId 0 0]⟩ : AreaList).lookup? heapId = some (.spanning heapId 0 0)
    := rfl
  have sum_eq {stop : Option Nat} (sum : Word.add? 0 (c.alignUp size) = stop) :
      stop = some (2 ^ 63)
    := by
    rw [← sum, alignUp_wide valid wide]
    rfl
  cases growth with
  | nothing zero =>
      apply Exists.intro
      rfl
  | noArea absent => cases absent
  | beyond found sum =>
      cases found
      cases sum_eq sum
  | blocked found sum blocked =>
      cases found
      cases sum_eq sum
      rcases blocked with empty | meeting
      · cases empty
      · cases meeting
  | unmapped found sum vacant mapped =>
      cases found
      cases sum_eq sum
      have mapping : Paging.RangeMapping stores 0 (2 ^ 63) t _ _ := Paging.mapAddresses_ends
      rw [show (Paging.mapAddresses stores 0 (2 ^ 63) t).answer = .error _ from mapped] at mapping
      have first : c.pageOf (2 ^ 63 - 1) = 0 := by
        rw [Config.pageOf_eq valid (by rw [wide]; decide), wide]
        apply Nat.div_eq_of_lt (by decide)
      have pos := Config.maxPages_pos valid
      generalize (Paging.mapAddresses stores 0 (2 ^ 63) t).state = t' at mapping
      cases mapping with
      | beyond some above => omega
      | paged some below mode' progress =>
          rw [mode] at mode'
          cases mode'
  | grown found sum vacant mapped =>
      apply Exists.intro
      rfl

/-- If the heap is empty at first, the first allocation of more than a page gets a region that ends
behind the heap. -/
theorem exists_heap_allocate_wide (empty : c.initialHeapSize = 0) (stores : Stores) (w : ω) :
  ∃ heap others, (allocate stores 0 (2 ^ 63 + 1) (new c, w)).state.1.areas.HasHeap heap others ∧
    heap.stop = 2 ^ 63 ∧
    (allocate stores 0 (2 ^ 63 + 1) (new c, w)).state.1.handles =
      ((new c).bound 0 ⟨0, 2 ^ 63 + 1⟩).handles
  := by
  have areas : (new c).areas = ⟨[.spanning heapId 0 0]⟩ := by
    simp [new, Area.enlistFree, empty, Region.isEmpty, AreaList.single]
  have has : (new c).areas.HasHeap (.spanning heapId 0 0) [] := by
    rw [areas]
    use rfl, rfl
    simp
  have ends : Allocation stores 0 (2 ^ 63 + 1) (.spanning heapId 0 0) [] (new c, w) _ _
    := allocate_ends has rfl
  generalize (allocate stores 0 (2 ^ 63 + 1) (new c, w)).answer = answer at ends
  generalize (allocate stores 0 (2 ^ 63 + 1) (new c, w)).state = s' at ends
  cases ends with
  | nothing zero => cases zero
  | noHandle some beyond =>
      exact absurd (Nat.le_zero.mp beyond) (Config.meets_of_validate valid .handleCapacity)
  | untaken some below taking =>
      cases taking with
      | refused full nonzero growth =>
          rw [show (new c, w).1.areas = _ from areas] at growth
          obtain ⟨r, ok⟩ := growth_wide valid mode wide growth
          cases ok
  | fresh some below taking idle =>
      cases taking with
      | fit fit => cases fit
      | ungrown full zero =>
          exact absurd zero (heapIncrement_ne_zero (Config.pageSize_pos valid))
      | grown full nonzero sum vacant mapped =>
          rw [alignUp_wide valid wide] at sum
          obtain ⟨-, rfl⟩ := Word.add?_eq_some_iff.mp sum
          have grown : ((Area.spanning heapId 0 0).extendTo (2 ^ 63)).id = heapId := rfl
          refine ⟨_, [], has.replace (id_enlistFree.trans grown), ?_, ?_⟩
          · rw [stop_enlistFree]
            apply Nat.zero_add
          · simp only [Area.spanning, Nat.zero_add]
            rfl
  | rebound some below taking has' found busy => cases found

/-- That region is not accounted for. -/
theorem not_accounted_wide (empty : c.initialHeapSize = 0) {w : ω} {heap : Area} :
  ¬ (allocate stores 0 (2 ^ 63 + 1) (new c, w)).state.1.Accounted heap 0
  := by
  intro accounted
  obtain ⟨heap', others, has, stop, handles⟩ :=
    exists_heap_allocate_wide valid mode wide empty stores w
  obtain rfl : heap' = heap := Option.some.inj (has.lookup?.symm.trans accounted.found)
  have inside := accounted.tiling.inside ⟨0, 2 ^ 63 + 1⟩ (by rw [handles]; apply List.mem_cons_self)
  rw [accounted.brk_eq, stop] at inside
  exact absurd inside.2 (by decide)

end Wide

/-- The heap of a new space is roomy, unless there is one page that is half of the words. -/
theorem roomy_of_regular (valid : c.validate = .ok ()) (bounded : c.maxPages * c.pageSize ≤ 2 ^ 63)
    (regular : ¬ (c.mode = .identity ∧ c.initialHeapSize = 0 ∧ c.pageSize = 2 ^ 63)) :
  2 * c.pageSize < Word.bound ∨ c.mode = .paged ∨ 0 < c.initialHeapSize
  := by
  have half := Config.pageSize_le_half valid bounded
  rcases mode : c.mode with - | -
  · right; left
    rfl
  · by_cases empty : c.initialHeapSize = 0
    · left
      have ne : c.pageSize ≠ 2 ^ 63 := fun wide => regular ⟨mode, empty, wide⟩
      rw [Word.bound]
      omega
    · right; right
      apply Nat.pos_of_ne_zero empty

/-- Where the addresses end at `2 ^ 63` or before, every state is accounted for, but for the one
kind of configuration with such long pages that a heap can grow by less than what is taken. -/
theorem accounted_iff (valid : c.validate = .ok ()) (bounded : c.maxPages * c.pageSize ≤ 2 ^ 63) :
  (∀ (ω : Type) [Backing ω] (s : Space c) (direct : Nat), Reaches c ω s direct →
      ∃ heap, s.Accounted heap direct) ↔
    ¬ (c.mode = .identity ∧ c.initialHeapSize = 0 ∧ c.pageSize = 2 ^ 63)
  := by
  constructor
  · rintro all ⟨mode, empty, wide⟩
    have world : Machine := ⟨⟨⟨#[], [], 0⟩, {}⟩, ⟨⟨#[], [], 0⟩, {}⟩⟩
    have reached := Reaches.start.step (c := c) world {} (.allocate 0 (2 ^ 63 + 1))
    obtain ⟨heap, accounted⟩ := all Machine _ _ reached
    rw [Command.run, Op.state_map] at accounted
    apply not_accounted_wide valid mode wide empty accounted
  · intro regular ω _ s direct reached
    have room := roomy_of_regular valid bounded regular
    obtain ⟨⟨heap, others, account⟩, -⟩ := reached.account valid bounded room
    use heap
    apply account.accounted

/-- One page that is half of the words. -/
def widePage : Config where
  pageSize := 2 ^ 63
  maxPages := 1
  initialHeapSize := 0
  mode := .identity

/-- Every state is accounted for with the default settings, but not with such a long page. -/
theorem accounted_default_and_not_widePage :
  (∀ (ω : Type) [Backing ω] (s : Space {}) (direct : Nat), Reaches {} ω s direct →
    ∃ heap, s.Accounted heap direct) ∧
  ¬ ∀ (ω : Type) [Backing ω] (s : Space widePage) (direct : Nat), Reaches widePage ω s direct →
    ∃ heap, s.Accounted heap direct
  := by
  constructor
  · apply (accounted_iff (by decide) (by decide)).mpr
    decide
  · rw [accounted_iff (by decide +kernel) (by decide)]
    decide

end VirtualMemory.Space
