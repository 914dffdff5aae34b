import VirtualMemory.Proofs.Space.Failures
import Mathlib.Data.List.Pairwise

/-!
# Live regions stay apart

In every state of an address space whose addresses end at `2 ^ 63` or before, the regions of
different handles share no address.  The regions are apart even where the last one ends behind the
heap, which can happen once: then the heap has grown to the end of the last page, and it never
grows again.  To use the ledger in this case as well, the heap is seen as if it reached up to the
end of all regions, its fence.

A region stays that of its handle until the handle is freed or bound again.
-/

namespace VirtualMemory.Space

open AreaList Command

variable {c : Config} {ω : Type} [Backing ω] {stores : Stores} {s s' : Space c × ω}
variable {heap heap' left : Area} {others others' : List Area} {pending pending' : List Region}
variable {r previous taken : Region} {fence size handle other offset stop : Nat}
variable {command : Command}

/-- The space as if the heap reached up to a fence. -/
def fenced (s : Space c) (heap : Area) (others : List Area) (fence : Nat) : Space c :=
  ⟨⟨heap.extendTo fence :: others⟩, s.handles, s.paging⟩

/-- The ledger of a space whose heap is seen as reaching up to a fence: it does, or it cannot grow
any more. -/
structure Separated (fence : Nat) (pending : List Region) (s : Space c) (heap : Area)
    (others : List Area) : Prop where
  hasHeap : s.areas.HasHeap heap others
  brk_eq : heap.brk = heap.stop
  ledger : ∃ total,
    Ledger total pending (s.fenced heap others fence) (heap.extendTo fence) others
  stop_eq : heap.stop = fence ∨ heap.stop = c.maxPages * c.pageSize

theorem separated_new :
  ∃ heap, Separated c.initialHeapSize [] (new c) heap []
  := by
  obtain ⟨heap, ledger, stop⟩ := ledger_new (c := c)
  have same : heap.extendTo c.initialHeapSize = heap := by
    rw [Area.extendTo, ← stop]
    nth_rewrite 2 [← ledger.brk_eq]
    rfl
  use heap, ledger.hasHeap, ledger.brk_eq
  · use c.initialHeapSize
    rw [fenced, same]
    have areas : (new c).areas = ⟨[heap]⟩ := congrArg AreaList.mk ledger.hasHeap.areas
    apply ledger.of_tables
    · exact areas.symm
    · rfl
  · left
    apply stop

namespace Separated

theorem capacity {s : Space c} (h : Separated fence pending s heap others) :
  s.handles.capacity = c.handleCapacity
  := by
  obtain ⟨total, ledger⟩ := h.ledger
  apply ledger.capacity

theorem of_tables {s s' : Space c} (h : Separated fence pending s heap others)
    (same : SameTables s s') :
  Separated fence pending s' heap others
  := by
  constructor
  · rw [same.areas]
    apply h.hasHeap
  · apply h.brk_eq
  · obtain ⟨total, ledger⟩ := h.ledger
    use total
    exact ledger.of_tables rfl same.handles
  · apply h.stop_eq

/-- Regions may move within the fence. -/
theorem moved {s s' : Space c} (h : Separated fence pending s heap others)
    (has : s'.areas.HasHeap heap' others') (brk : heap'.brk = heap.brk)
    (stop : heap'.stop = heap.stop)
    (ledger : ∃ total,
      Ledger total pending' (s'.fenced heap' others' fence) (heap'.extendTo fence) others') :
  Separated fence pending' s' heap' others'
  := by
  constructor
  · apply has
  · rw [brk, stop, h.brk_eq]
  · apply ledger
  · rw [stop]
    apply h.stop_eq

/-! ### Regions move -/

/-- A region of the heap is taken from the free ones. -/
theorem take {s : Space c} (h : Separated fence [] s heap others) (pos : 0 < size)
    (fit : heap.firstFit? size = some (taken, left)) :
  Separated fence [taken] ⟨⟨left :: others⟩, s.handles, s.paging⟩ left others
  := by
  obtain ⟨total, ledger⟩ := h.ledger
  obtain ⟨⟨taken', free⟩, fit', eq⟩ := Option.map_eq_some_iff.mp fit
  cases eq
  have fit'' : (heap.extendTo fence).firstFit? size =
      some (taken, { heap.extendTo fence with free := free })
    := Option.map_eq_some_iff.mpr ⟨(taken, free), fit', rfl⟩
  apply h.moved
  · exact h.hasHeap.replace rfl
  · rfl
  · rfl
  · use total
    apply (ledger.take pos fit'').1

/-- A region that is taken becomes free. -/
theorem enlist {s : Space c} (h : Separated fence (r :: pending) s heap others) :
  Separated fence pending (s.freed heap others r) (heap.enlistFree r) others
  := by
  obtain ⟨total, ledger⟩ := h.ledger
  have extend : (heap.enlistFree r).extendTo fence = (heap.extendTo fence).enlistFree r := by
    rw [Area.enlistFree, Area.enlistFree]
    split
    · rfl
    · rfl
  have kept : (heap.enlistFree r).brk = heap.brk ∧ (heap.enlistFree r).stop = heap.stop := by
    rw [Area.enlistFree]
    split
    · constructor
      · rfl
      · rfl
    · constructor
      · rfl
      · rfl
  apply h.moved (h.hasHeap.replace id_enlistFree) kept.1 kept.2
  use total
  rw [fenced, extend]
  apply ledger.enlist.1

/-- A region that is taken is bound to a handle that was not bound, or bound to nothing. -/
theorem bind {s : Space c} (h : Separated fence [r] s heap others)
    (idle : ∀ previous, s.handles.bindings.get? handle = some previous →
      previous.isEmpty = true) :
  Separated fence [] (s.bound handle r) heap others
  := by
  obtain ⟨total, ledger⟩ := h.ledger
  exact h.moved h.hasHeap rfl rfl ⟨total, ledger.bind idle⟩

/-- A region that is taken is bound to a handle that was bound to another one, which is then
taken. -/
theorem rebind {s : Space c} (h : Separated fence [r] s heap others)
    (found : s.handles.bindings.get? handle = some previous) (busy : previous.isEmpty = false) :
  Separated fence [previous] (s.bound handle r) heap others
  := by
  obtain ⟨total, ledger⟩ := h.ledger
  exact h.moved h.hasHeap rfl rfl ⟨total, ledger.rebind found busy⟩

/-- An empty region may be bound to a handle that was not bound, or bound to nothing. -/
theorem bindNothing {s : Space c} (h : Separated fence [] s heap others)
    (nothing : r.isEmpty = true)
    (idle : ∀ previous, s.handles.bindings.get? handle = some previous →
      previous.isEmpty = true) :
  Separated fence [] (s.bound handle r) heap others
  := by
  obtain ⟨total, ledger⟩ := h.ledger
  exact h.moved h.hasHeap rfl rfl ⟨total, ledger.bindNothing nothing idle⟩

/-- An empty region may be bound to a handle in place of another region, which is then taken. -/
theorem rebindNothing {s : Space c} (h : Separated fence [] s heap others)
    (nothing : r.isEmpty = true) (found : s.handles.bindings.get? handle = some previous)
    (busy : previous.isEmpty = false) :
  Separated fence [previous] (s.bound handle r) heap others
  := by
  obtain ⟨total, ledger⟩ := h.ledger
  exact h.moved h.hasHeap rfl rfl ⟨total, ledger.rebindNothing nothing found busy⟩

/-- The region that a handle has is taken. -/
theorem unbind {s : Space c} (h : Separated fence [] s heap others)
    (found : s.handles.get handle = .ok r) :
  Separated fence [r] (s.unbound handle) heap others
  := by
  obtain ⟨total, ledger⟩ := h.ledger
  exact h.moved h.hasHeap rfl rfl ⟨total, ledger.unbind found⟩

/-- The areas besides the heap may change as long as they have no free regions. -/
theorem withOthers {s : Space c} {areas : AreaList} {p : Paging c}
    (h : Separated fence pending s heap others) (has : areas.HasHeap heap others')
    (vacant : ∀ a ∈ others', a.free = []) :
  Separated fence pending ⟨areas, s.handles, p⟩ heap others'
  := by
  obtain ⟨total, ledger⟩ := h.ledger
  apply h.moved has rfl rfl
  use total
  apply ledger.withOthers ⟨rfl, has.id, has.others⟩ vacant

/-! ### Regions of different handles -/

/-- The regions of different handles share no address. -/
theorem apart {s : Space c} {r' : Region} (h : Separated fence pending s heap others)
    (ne : handle ≠ other) (found : s.handles.get handle = .ok r)
    (found' : s.handles.get other = .ok r') :
  r.Apart r'
  := by
  obtain ⟨total, ledger⟩ := h.ledger
  have bound := HandleTable.mem_live_of_get ledger.sorted found
  have bound' := HandleTable.mem_live_of_get ledger.sorted found'
  have live := (List.pairwise_append.mp (List.pairwise_append.mp ledger.tiling.apart).2.1).1
  have symm : Std.Symm fun b b' : Nat × Region => b.2.Apart b'.2
    := ⟨fun _ _ apart => apart.symm⟩
  apply (List.pairwise_map.mp live).forall bound bound'
  intro eq
  exact ne (Prod.mk.inj eq).1

/-! ### The heap grows -/

/-- A heap that grows was not at the end of the last page yet, so its fence moves with it. -/
theorem stop_eq_of_lt {s : Space c} (h : Separated fence pending s heap others)
    (lt : heap.stop < stop) (below : stop ≤ c.maxPages * c.pageSize) :
  heap.stop = fence
  := by
  rcases h.stop_eq with eq | eq
  · apply eq
  · omega

/-- The heap grows without an allocation. -/
theorem raise {s : Space c} {p : Paging c} (h : Separated fence pending s heap others)
    (lt : heap.stop < stop) (below : stop ≤ c.maxPages * c.pageSize) :
  Separated stop pending ⟨⟨heap.extendTo stop :: others⟩, s.handles, p⟩ (heap.extendTo stop) others
  := by
  obtain ⟨total, ledger⟩ := h.ledger
  have fence_le : (heap.extendTo fence).stop ≤ stop := by
    rw [← h.stop_eq_of_lt lt below]
    apply Nat.le_of_lt lt
  use h.hasHeap.replace rfl, rfl
  · use total
    exact (ledger.raise fence_le).of_tables rfl rfl
  · left
    rfl

section Bounded

variable (valid : c.validate = .ok ()) (bounded : c.maxPages * c.pageSize ≤ 2 ^ 63)
include valid bounded

omit [Backing ω] in
/-- If a page alone has half of all words, pages are not translated and the heap is empty, there is
one page only, and the heap grows to its end. -/
theorem eq_end_of_not_roomy (tight : ¬ Roomy c heap) {n : Nat}
    (sum : Word.add? heap.stop (c.alignUp n) = some stop)
    (below : stop ≤ c.maxPages * c.pageSize) :
  stop = c.maxPages * c.pageSize
  := by
  obtain ⟨-, rfl⟩ := Word.add?_eq_some_iff.mp sum
  have half := Config.pageSize_le_half valid bounded
  have wide : c.pageSize = 2 ^ 63 := by
    by_contra ne
    apply tight
    left
    rw [Word.bound]
    omega
  have page := Config.pageSize_le_alignUp (c := c) (n := n)
  rw [wide] at bounded page below ⊢
  omega

/-- What is taken of a heap that grows starts where the heap ended. -/
theorem le_stop_grownRegion (a : s.1.paging.Agreement)
    (sum : Word.add? heap.stop (c.alignUp (heapIncrement c size)) = some stop)
    (mapped : (Paging.mapAddresses stores heap.stop stop (s.1.paging, s.2)).answer = .ok ()) :
  heap.stop ≤ (grownRegion heap.stop size).stop
  := by
  by_cases room : Roomy c heap
  · rw [grownRegion_of_mapped valid bounded room (t := (s.1.paging, s.2)) a sum mapped]
    apply Nat.le_add_right
  · have zero : heap.stop = 0 := by
      by_contra some
      apply room
      right; right
      apply Nat.pos_of_ne_zero some
    rw [zero]
    apply Nat.zero_le

/-- What is taken of the heap is apart from all other regions, if it is not empty. -/
theorem taking (h : Separated fence [] s.1 heap others) (a : s.1.paging.Agreement)
    (some : size ≠ 0) (taking : Taking stores size heap others s (.ok r) s') :
  ∃ fence' heap', Separated fence' [r] s'.1 heap' others ∨
    (r.isEmpty = true ∧ Separated fence' [] s'.1 heap' others)
  := by
  have pos : 0 < size := Nat.pos_of_ne_zero some
  cases taking with
  | @fit rest r fit =>
      use fence, rest
      left
      apply h.take pos fit
  | ungrown full zero => exact absurd zero (heapIncrement_ne_zero (Config.pageSize_pos valid))
  | @grown stop full nonzero sum vacant mapped =>
      have lt := lt_of_sum valid sum
      have below := stop_le_of_mapped valid bounded lt mapped
      have floor : heap.stop ≤ (grownRegion heap.stop size).stop :=
        le_stop_grownRegion valid bounded a sum mapped
      have roomy (room : Roomy c heap) : (grownRegion heap.stop size).stop < stop := by
        rw [grownRegion_of_mapped valid bounded room (t := (s.1.paging, s.2)) a sum mapped]
        apply lt_of_mapped valid bounded room (t := (s.1.paging, s.2)) a sum mapped
      obtain rfl := h.stop_eq_of_lt lt below
      obtain ⟨total, ledger⟩ := h.ledger
      rw [h.brk_eq]
      obtain ⟨middle, region⟩ : ∃ middle, grownRegion heap.stop size = ⟨heap.stop, middle⟩
        := ⟨_, rfl⟩
      rw [region] at floor roomy ⊢
      have has : HasHeap ⟨heap.extendTo stop :: others⟩ (heap.extendTo stop) others
        := h.hasHeap.replace rfl
      rcases Nat.eq_or_lt_of_le floor with nothing | upper
      · obtain rfl : heap.stop = middle := nothing
        have separated : Separated stop [⟨heap.stop, stop⟩]
            ⟨⟨heap.extendTo stop :: others⟩, s.1.handles, s.1.paging⟩ (heap.extendTo stop) others
          := ⟨has, rfl, ⟨_, ledger.extend lt⟩, Or.inl rfl⟩
        use stop, (heap.extendTo stop).enlistFree ⟨heap.stop, stop⟩
        right
        constructor
        · simp [Region.isEmpty]
        · exact separated.enlist.of_tables ⟨rfl, rfl⟩
      · by_cases more : middle < stop
        · have cut := (ledger.extend lt).cut upper more
          have separated : Separated stop [⟨middle, stop⟩, ⟨heap.stop, middle⟩]
              ⟨⟨heap.extendTo stop :: others⟩, s.1.handles, s.1.paging⟩ (heap.extendTo stop) others
            := ⟨has, rfl, ⟨_, cut⟩, Or.inl rfl⟩
          use stop, (heap.extendTo stop).enlistFree ⟨middle, stop⟩
          left
          exact separated.enlist.of_tables ⟨rfl, rfl⟩
        · have nothing : (⟨middle, stop⟩ : Region).isEmpty = true := by
            rw [Region.isEmpty, decide_eq_true_eq]
            apply Nat.le_of_not_lt more
          use middle, heap.extendTo stop
          left
          rw [Area.enlistFree, if_pos nothing]
          use has, rfl
          · apply Exists.intro
            exact (ledger.extend upper).of_tables rfl rfl
          · right
            apply eq_end_of_not_roomy valid bounded (fun room => more (roomy room)) sum below

theorem allocation {answer : Except Error Nat} (h : Separated fence [] s.1 heap others)
    (a : s.1.paging.Agreement)
    (allocation : Allocation stores handle size heap others s answer s') :
  ∃ fence' heap', Separated fence' [] s'.1 heap' others
  := by
  cases allocation with
  | nothing zero =>
      use fence, heap
  | noHandle some beyond =>
      use fence, heap
  | untaken some below taking =>
      use fence, heap
      apply h.of_tables taking.tables_eq
  | @fresh s' r some below taking idle =>
      obtain ⟨fence', heap', separated⟩ := h.taking valid bounded a some taking
      rw [← taking.handles_eq] at idle
      use fence', heap'
      rcases separated with h' | ⟨nothing, h'⟩
      · apply h'.bind idle
      · apply h'.bindNothing nothing idle
  | @rebound s' r previous heap₁ some below taking has found busy =>
      obtain ⟨fence', heap', separated⟩ := h.taking valid bounded a some taking
      rw [← taking.handles_eq] at found
      use fence', heap₁.enlistFree previous
      rcases separated with h' | ⟨nothing, h'⟩
      · obtain ⟨rfl, -⟩ := List.cons.inj (h'.hasHeap.areas.symm.trans has.areas)
        apply (h'.rebind found busy).enlist
      · obtain ⟨rfl, -⟩ := List.cons.inj (h'.hasHeap.areas.symm.trans has.areas)
        apply (h'.rebindNothing nothing found busy).enlist

/-- A request makes the heap, or another area, grow. -/
theorem growth {id : Nat} {answer : Except Error Region} {areas : AreaList} {t : Paging c × ω}
    (h : Separated fence [] s.1 heap others)
    (growth : Growth c id size (Paging.mapAddresses stores) (s.1.areas, s.1.paging, s.2) answer
      (areas, t)) :
  ∃ fence' heap' others',
    Separated fence' [] (⟨areas, s.1.handles, t.1⟩ : Space c) heap' others'
  := by
  rcases growth.heap_cases h.hasHeap with ⟨others', has, kept⟩ | ⟨rfl, stop, sum, mapped, rfl⟩
  · obtain ⟨total, ledger⟩ := h.ledger
    use fence, heap, others'
    apply h.withOthers has (ledger.vacant_of_growth kept)
  · have lt := lt_of_sum valid sum
    use stop
    apply Exists.intro
    use others
    apply h.raise lt (stop_le_of_mapped valid bounded lt mapped)

/-- Every command keeps the regions apart. -/
theorem run (h : Separated fence [] s.1 heap others) (a : s.1.paging.Agreement) :
  ∃ fence' heap' others', Separated fence' [] (command.run stores s).state.1 heap' others'
  := by
  have change : Change stores heap others s command _ _ := run_ends h.hasHeap h.capacity
  generalize (command.run stores s).answer = answer at change
  generalize (command.run stores s).state = s' at change ⊢
  cases change with
  | access access same =>
      use fence, heap, others
      apply h.of_tables same
  | allocation allocation =>
      obtain ⟨fence', heap', h'⟩ := h.allocation valid bounded a allocation
      use fence', heap', others
  | freeing freeing =>
      cases freeing with
      | unbound missing =>
          use fence, heap, others
      | freed found =>
          use fence
          apply Exists.intro
          use others
          apply (h.unbind found).enlist
  | insertion insertion =>
      obtain ⟨others', has, kept⟩ := insertion.exists_heap h.hasHeap
      obtain ⟨total, ledger⟩ := h.ledger
      use fence, heap, others'
      apply h.withOthers has (ledger.vacant_of_insertion rfl kept)
  | growth growth => exact h.growth valid bounded growth

end Bounded

end Separated

/-! ### The region of a handle -/

omit [Backing ω] in
/-- A handle keeps its region when another handle is bound. -/
theorem get_bound_of_ne {s : Space c} (ne : handle ≠ other) :
  (s.bound other r).handles.get handle = s.handles.get handle
  := by
  simp only [HandleTable.get, bound, Slots.get?_insert, if_neg ne]

omit [Backing ω] in
/-- A handle keeps its region when another handle is unbound. -/
theorem get_unbound_of_ne {s : Space c} (ne : handle ≠ other) :
  (s.unbound other).handles.get handle = s.handles.get handle
  := by
  simp only [HandleTable.get, unbound, Slots.get?_erase, if_neg ne]

/-- An allocation binds no handle but the one that it is asked to. -/
theorem Allocation.get_of_ne {answer : Except Error Nat} (ne : handle ≠ other)
    (allocation : Allocation stores other size heap others s answer s') :
  s'.1.handles.get handle = s.1.handles.get handle
  := by
  cases allocation with
  | nothing zero => rfl
  | noHandle some beyond => rfl
  | untaken some below taking => rw [taking.handles_eq]
  | fresh some below taking idle =>
      rw [get_bound_of_ne ne, taking.handles_eq]
  | rebound some below taking has found busy =>
      rw [get_bound_of_ne ne, ← taking.handles_eq]
      rfl

/-- A region stays that of its handle unless the handle is bound again or freed. -/
theorem InOrder.get_run (h : s.1.InOrder)
    (unbound : ∀ size, command = .allocate handle size →
      ∃ e, (command.run stores s).answer = .error e)
    (unfreed : command = .free handle → ∃ e, (command.run stores s).answer = .error e) :
  (command.run stores s).state.1.handles.get handle = s.1.handles.get handle
  := by
  obtain ⟨heap, others, has⟩ := h.heap
  have change : Change stores heap others s command _ _ := Space.run_ends has h.capacity
  generalize (command.run stores s).answer = answer at change unbound unfreed
  generalize (command.run stores s).state = s' at change ⊢
  cases change with
  | access access same => rw [same.handles]
  | @allocation other size answer _ allocation =>
      by_cases same : handle = other
      · subst same
        obtain ⟨e, failed⟩ := unbound size rfl
        cases answer with
        | ok address => cases failed
        | error e => rw [allocation.tables_eq.handles]
      · apply allocation.get_of_ne same
  | @freeing other _ _ freeing =>
      cases freeing with
      | unbound missing => rfl
      | freed found =>
          apply get_unbound_of_ne
          rintro rfl
          obtain ⟨e, failed⟩ := unfreed rfl
          cases failed
  | insertion insertion => rfl
  | growth growth => rfl

end VirtualMemory.Space
