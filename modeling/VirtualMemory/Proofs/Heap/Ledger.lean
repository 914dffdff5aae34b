import VirtualMemory.Proofs.Heap.Tiling
import VirtualMemory.Proofs.Slots
import VirtualMemory.Proofs.Space.Outcomes

/-!
# The ledger of the heap

The live regions of the handles, the free regions of the heap and the regions that are taken but not
bound yet tile a part of the heap of known size.  Each step of an allocation and of freeing moves
one region from one of these three to another; only the growth of the heap adds bytes.
-/

namespace VirtualMemory

/-- The region that a handle has is the one bound to it. -/
theorem HandleTable.bindings_of_get {t : HandleTable} {handle : Nat} {r : Region}
    (found : t.get handle = .ok r) :
  t.bindings.get? handle = some r
  := by
  rw [get] at found
  split at found
  · next r' eq =>
      split at found
      · cases found
      · cases found
        apply eq
  · cases found

/-- The region that a handle has is not empty. -/
theorem HandleTable.isEmpty_of_get {t : HandleTable} {handle : Nat} {r : Region}
    (found : t.get handle = .ok r) :
  r.isEmpty = false
  := by
  rw [get, bindings_of_get found] at found
  dsimp only at found
  split at found
  · cases found
  · next busy => apply Bool.eq_false_of_not_eq_true busy

namespace HandleTable

variable {t : HandleTable} {handle : Nat} {r : Region}

/-- A handle that has a region is live. -/
theorem mem_live_of_get (sorted : t.bindings.Sorted) (found : t.get handle = .ok r) :
  (handle, r) ∈ t.live
  := by
  apply List.mem_filter.mpr
  use sorted.mem_iff.mpr (bindings_of_get found)
  rw [isEmpty_of_get found]
  rfl

/-- A handle that is bound to a region joins the live ones, unless the region is empty. -/
theorem live_insert (handle : Nat) (sorted : t.bindings.Sorted) (busy : r.isEmpty = false) :
  (live { t with bindings := t.bindings.insert handle r }).Perm
    ((handle, r) :: live { t with bindings := t.bindings.erase handle })
  := by
  have perm := (sorted.insert_perm (i := handle) (a := r)).filter fun b => !b.2.isEmpty
  rw [List.filter_cons, busy] at perm
  apply perm

theorem live_insert_of_isEmpty (handle : Nat) (sorted : t.bindings.Sorted)
    (nothing : r.isEmpty = true) :
  (live { t with bindings := t.bindings.insert handle r }).Perm
    (live { t with bindings := t.bindings.erase handle })
  := by
  have perm := (sorted.insert_perm (i := handle) (a := r)).filter fun b => !b.2.isEmpty
  rw [List.filter_cons, nothing] at perm
  apply perm

/-- A handle that is unbound leaves the live ones. -/
theorem live_of_some (sorted : t.bindings.Sorted) (found : t.bindings.get? handle = some r)
    (busy : r.isEmpty = false) :
  t.live.Perm ((handle, r) :: live { t with bindings := t.bindings.erase handle })
  := by
  have perm := (sorted.entries_perm found).filter fun b => !b.2.isEmpty
  rw [List.filter_cons, busy] at perm
  apply perm

/-- A handle that is bound to no region, or to an empty one, is not among the live ones. -/
theorem live_of_idle (sorted : t.bindings.Sorted)
    (idle : ∀ previous, t.bindings.get? handle = some previous → previous.isEmpty = true) :
  t.live.Perm (live { t with bindings := t.bindings.erase handle })
  := by
  rcases found : t.bindings.get? handle with - | previous
  · rw [live, live, Slots.erase_entries_of_none found]
  · have perm := (sorted.entries_perm found).filter fun b => !b.2.isEmpty
    rw [List.filter_cons, idle previous found] at perm
    apply perm

end HandleTable

namespace Space

variable {c : Config} {s s' : Space c} {heap left : Area} {others others' : List Area}
variable {pending pending' : List Region} {r previous taken : Region} {areas : AreaList}
variable {total size handle stop middle : Nat}

/-- The areas and the handle table are in order, and the regions that are taken, live or free
tile `total` bytes of the heap. -/
structure Ledger (total : Nat) (pending : List Region) (s : Space c) (heap : Area)
    (others : List Area) : Prop where
  hasHeap : s.areas.HasHeap heap others
  start_eq : heap.start = 0
  brk_eq : heap.brk = heap.stop
  vacant : ∀ a ∈ others, a.free = []
  capacity : s.handles.capacity = c.handleCapacity
  sorted : s.handles.bindings.Sorted
  tiling : Tiling heap.stop total (pending ++ (s.handles.live.map Prod.snd ++ heap.free))

namespace Ledger

theorem of_tables (h : Ledger total pending s heap others) (areas : s'.areas = s.areas)
    (handles : s'.handles = s.handles) :
  Ledger total pending s' heap others
  := by
  constructor
  · rw [areas]
    apply h.hasHeap
  · apply h.start_eq
  · apply h.brk_eq
  · apply h.vacant
  · rw [handles]
    apply h.capacity
  · rw [handles]
    apply h.sorted
  · rw [handles]
    apply h.tiling

/-- The areas besides the heap may change as long as they have no free regions. -/
theorem withOthers (h : Ledger total pending s heap others) (has : areas.HasHeap heap others')
    (vacant : ∀ a ∈ others', a.free = []) {p : Paging c} :
  Ledger total pending ⟨areas, s.handles, p⟩ heap others'
  := by
  use has, h.start_eq, h.brk_eq, vacant, h.capacity, h.sorted
  apply h.tiling

/-- No area besides the heap has free regions after areas without any are added. -/
theorem vacant_of_insertion {new : Area} (h : Ledger total pending s heap others)
    (idle : new.free = []) (kept : ∀ a ∈ others', a = new ∨ a ∈ others) :
  ∀ a ∈ others', a.free = []
  := by
  intro a mem
  rcases kept a mem with rfl | mem
  · apply idle
  · apply h.vacant a mem

/-- No area besides the heap has free regions after one of them has grown. -/
theorem vacant_of_growth (h : Ledger total pending s heap others)
    (kept : ∀ a ∈ others', ∃ b ∈ others, a.free = b.free) :
  ∀ a ∈ others', a.free = []
  := by
  intro a mem
  obtain ⟨b, mem_b, eq⟩ := kept a mem
  rw [eq]
  apply h.vacant b mem_b

/-- The heap may change if the tiling is kept. -/
theorem withHeap {heap' : Area} {total' : Nat} (h : Ledger total pending s heap others)
    (id : heap'.id = heap.id) (start_eq : heap'.start = heap.start)
    (brk_eq : heap'.brk = heap'.stop)
    (tiling : Tiling heap'.stop total'
      (pending' ++ (s.handles.live.map Prod.snd ++ heap'.free))) :
  Ledger total' pending' ⟨⟨heap' :: others⟩, s.handles, s.paging⟩ heap' others
  := by
  constructor
  · apply h.hasHeap.replace id
  · rw [start_eq, h.start_eq]
  · apply brk_eq
  · apply h.vacant
  · apply h.capacity
  · apply h.sorted
  · apply tiling

/-- The regions bound to handles may change if the regions that are taken or live stay. -/
theorem withBindings {bindings : Slots Region} (h : Ledger total pending s heap others)
    (sorted : bindings.Sorted)
    (perm : (pending ++ s.handles.live.map Prod.snd).Perm
      (pending' ++ (HandleTable.live { s.handles with bindings }).map Prod.snd)) :
  Ledger total pending' { s with handles := { s.handles with bindings := bindings } } heap others
  := by
  use h.hasHeap, h.start_eq, h.brk_eq, h.vacant, h.capacity, sorted
  apply h.tiling.perm
  rw [← List.append_assoc, ← List.append_assoc]
  apply perm.append_right

/-! ### The heap grows -/

/-- The new part of the heap is left out of the account. -/
theorem raise (h : Ledger total pending s heap others) (le : heap.stop ≤ stop) :
  Ledger total pending ⟨⟨heap.extendTo stop :: others⟩, s.handles, s.paging⟩
    (heap.extendTo stop) others
  := by
  apply h.withHeap
  · rfl
  · rfl
  · rfl
  · apply h.tiling.mono le

/-- The new part of the heap is taken. -/
theorem extend (h : Ledger total pending s heap others) (lt : heap.stop < stop) :
  Ledger (total + (stop - heap.stop)) (⟨heap.stop, stop⟩ :: pending)
    ⟨⟨heap.extendTo stop :: others⟩, s.handles, s.paging⟩ (heap.extendTo stop) others
  := by
  apply h.withHeap
  · rfl
  · rfl
  · rfl
  · apply h.tiling.extend lt

/-- A region that is taken may be cut in two. -/
theorem cut (h : Ledger total (r :: pending) s heap others) (lower : r.start < middle)
    (upper : middle < r.stop) :
  Ledger total (⟨middle, r.stop⟩ :: ⟨r.start, middle⟩ :: pending) s heap others
  := by
  have tiling := (h.tiling.cut lower upper).perm (List.Perm.swap _ _ _)
  use h.hasHeap, h.start_eq, h.brk_eq, h.vacant, h.capacity, h.sorted
  apply tiling

/-! ### Regions move -/

/-- A region of the heap is taken from the free ones. -/
theorem take (h : Ledger total [] s heap others) (pos : 0 < size)
    (fit : heap.firstFit? size = some (taken, left)) :
  Ledger total [taken] ⟨⟨left :: others⟩, s.handles, s.paging⟩ left others ∧
    left.stop = heap.stop
  := by
  obtain ⟨⟨taken', free⟩, fit', eq⟩ := Option.map_eq_some_iff.mp fit
  cases eq
  constructor
  · apply h.withHeap
    · rfl
    · rfl
    · apply h.brk_eq
    · have tiling : Tiling heap.stop total
          (s.handles.live.map Prod.snd ++ heap.free)
        := h.tiling
      apply tiling.firstFit pos fit'
  · rfl

/-- A region that is taken becomes free. -/
theorem enlist (h : Ledger total (r :: pending) s heap others) :
  Ledger total pending (s.freed heap others r) (heap.enlistFree r) others ∧
    (heap.enlistFree r).stop = heap.stop
  := by
  have some : ¬ r.isEmpty = true := by
    have lt := (h.tiling.inside r List.mem_cons_self).1
    rw [Region.isEmpty, decide_eq_true_eq]
    omega
  rw [freed, Area.enlistFree, if_neg some]
  constructor
  · apply h.withHeap
    · rfl
    · rfl
    · apply h.brk_eq
    · apply h.tiling.perm
      rw [List.cons_append, ← List.append_assoc, ← List.append_assoc]
      apply List.perm_middle.symm
  · rfl

/-- A region that is taken is not empty. -/
theorem isEmpty_eq_false (h : Ledger total (r :: pending) s heap others) :
  r.isEmpty = false
  := by
  have inside := (h.tiling.inside r List.mem_cons_self).1
  rw [Region.isEmpty, decide_eq_false_iff_not]
  omega

/-- A region that is taken is bound to a handle that was not bound, or bound to nothing. -/
theorem bind (h : Ledger total [r] s heap others)
    (idle : ∀ previous, s.handles.bindings.get? handle = some previous →
      previous.isEmpty = true) :
  Ledger total [] (s.bound handle r) heap others
  := by
  have before := (HandleTable.live_of_idle h.sorted idle).map Prod.snd
  have after := (HandleTable.live_insert handle h.sorted h.isEmpty_eq_false).map
    Prod.snd
  apply h.withBindings h.sorted.insert
  apply (before.cons r).trans after.symm

/-- A region that is taken is bound to a handle that was bound to another one, which is then
taken. -/
theorem rebind (h : Ledger total [r] s heap others)
    (found : s.handles.bindings.get? handle = some previous) (busy : previous.isEmpty = false) :
  Ledger total [previous] (s.bound handle r) heap others
  := by
  have before := (HandleTable.live_of_some h.sorted found busy).map Prod.snd
  have after := (HandleTable.live_insert handle h.sorted h.isEmpty_eq_false).map
    Prod.snd
  apply h.withBindings h.sorted.insert
  apply (before.cons r).trans
  apply (List.Perm.swap _ _ _).trans
  apply (after.cons previous).symm

/-- An empty region may be bound to a handle that was not bound, or bound to nothing. -/
theorem bindNothing (h : Ledger total [] s heap others) (nothing : r.isEmpty = true)
    (idle : ∀ previous, s.handles.bindings.get? handle = some previous →
      previous.isEmpty = true) :
  Ledger total [] (s.bound handle r) heap others
  := by
  have before := (HandleTable.live_of_idle h.sorted idle).map Prod.snd
  have after := (HandleTable.live_insert_of_isEmpty handle h.sorted nothing).map
    Prod.snd
  apply h.withBindings h.sorted.insert
  apply before.trans after.symm

/-- An empty region may be bound to a handle in place of another region, which is then taken. -/
theorem rebindNothing (h : Ledger total [] s heap others) (nothing : r.isEmpty = true)
    (found : s.handles.bindings.get? handle = some previous) (busy : previous.isEmpty = false) :
  Ledger total [previous] (s.bound handle r) heap others
  := by
  have before := (HandleTable.live_of_some h.sorted found busy).map Prod.snd
  have after := (HandleTable.live_insert_of_isEmpty handle h.sorted nothing).map
    Prod.snd
  apply h.withBindings h.sorted.insert
  apply before.trans
  apply (after.cons previous).symm

/-- The region that a handle has is taken. -/
theorem unbind (h : Ledger total [] s heap others) (found : s.handles.get handle = .ok r) :
  Ledger total [r] (s.unbound handle) heap others
  := by
  have before := HandleTable.live_of_some h.sorted (HandleTable.bindings_of_get found)
    (HandleTable.isEmpty_of_get found)
  apply h.withBindings h.sorted.erase
  apply before.map Prod.snd

/-- The bytes of a handle end where the heap does or before. -/
theorem add_lt_stop (h : Ledger total pending s heap others) {offset : Nat}
    (found : s.handles.get handle = .ok r) (inside : offset < r.length) :
  r.start + offset < heap.stop
  := by
  have live := HandleTable.mem_live_of_get h.sorted found
  have mem : r ∈ pending ++ (s.handles.live.map Prod.snd ++ heap.free) := by
    apply List.mem_append_right
    apply List.mem_append_left
    apply List.mem_map_of_mem live
  have below := (h.tiling.inside r mem).2
  rw [Region.length] at inside
  omega

/-- The bytes of a handle are at addresses of the heap. -/
theorem covering (h : Ledger total pending s heap others) {offset : Nat}
    (found : s.handles.get handle = .ok r) (inside : offset < r.length) :
  (s.areas.covering? (r.start + offset)).isSome = true
  := by
  rw [AreaList.covering?, h.hasHeap.areas, List.find?_isSome]
  use heap, List.mem_cons_self
  apply decide_eq_true
  constructor
  · show heap.start ≤ r.start + offset
    rw [h.start_eq]
    apply Nat.zero_le
  · apply h.add_lt_stop found inside

theorem covering_of_locate {ω : Type} {s : Space c × ω} {offset address : Nat}
    (h : Ledger total pending s.1 heap others)
    (ok : (locate handle offset s).answer = .ok address) :
  (s.1.areas.covering? address).isSome = true ∧ (locate handle offset s).state = s
  := by
  have ends : (locate handle offset).Ends s
      (fun address s' => (s.1.areas.covering? address).isSome = true ∧ s' = s) (fun _ _ => True)
    := by
    rw [Command.ends_locate]
    rcases found : s.1.handles.get handle with e | r
    · trivial
    · dsimp only
      split
      · trivial
      · next inside =>
          constructor
          · apply h.covering found (Nat.lt_of_not_le inside)
          · rfl
  apply ends.of_ok ok

end Ledger

/-- In a new space the heap is one free region. -/
theorem ledger_new :
  ∃ heap, Ledger c.initialHeapSize [] (new c) heap [] ∧ heap.stop = c.initialHeapSize
  := by
  have start (pending : List Region) (tiling : Tiling c.initialHeapSize c.initialHeapSize pending) :
      Ledger (c := c) c.initialHeapSize pending
        ⟨.single (.spanning heapId 0 c.initialHeapSize), .empty c.handleCapacity, .empty c⟩
        (.spanning heapId 0 c.initialHeapSize) []
    := by
    have no_area (P : Area → Prop) : ∀ a ∈ ([] : List Area), P a := by
      intro a mem
      cases mem
    constructor
    · use rfl, rfl
      exact no_area _
    · rfl
    · rfl
    · apply no_area
    · rfl
    · apply Slots.sorted_empty
    · show Tiling c.initialHeapSize c.initialHeapSize (pending ++ [])
      rw [List.append_nil]
      apply tiling
  rcases Nat.eq_zero_or_pos c.initialHeapSize with zero | pos
  · use .spanning heapId 0 c.initialHeapSize
    constructor
    · have nothing : Tiling c.initialHeapSize c.initialHeapSize [] := by
        rw [zero]
        apply Tiling.nil
      have h := start [] nothing
      have same : new c = ⟨.single (.spanning heapId 0 c.initialHeapSize),
          .empty c.handleCapacity, .empty c⟩
        := by
        simp [new, Area.enlistFree, zero, Region.isEmpty]
      rw [same]
      apply h
    · rfl
  · have whole : Tiling c.initialHeapSize c.initialHeapSize [⟨0, c.initialHeapSize⟩] := by
      constructor
      · intro r mem
        obtain rfl := List.mem_singleton.mp mem
        use pos, Nat.le_refl _
      · apply List.pairwise_singleton
      · rfl
    apply Exists.intro
    apply (start [⟨0, c.initialHeapSize⟩] whole).enlist

end Space

end VirtualMemory
