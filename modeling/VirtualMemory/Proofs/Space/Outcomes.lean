import VirtualMemory.Proofs.Area.Growth
import VirtualMemory.Proofs.Space.Command

/-!
# How regions are allocated and freed

For taking bytes of the heap, binding a handle to them and freeing a handle, relations list the
ways in which the operation ends, in a space whose first area is the heap.  An operation that
fails leaves areas and handles as they were, whatever the stores answer; bytes come either from
the first free region that has enough or from the start of what the heap grew by.
-/

namespace VirtualMemory.Space

open AreaList Command

variable {c : Config} {ω : Type} {stores : Stores} {s s' : Space c × ω}
variable {id handle size : Nat} {heap : Area} {others : List Area} {α : Type}

/-- The areas and the handle table of two spaces are the same. -/
structure SameTables (s s' : Space c) : Prop where
  areas : s'.areas = s.areas
  handles : s'.handles = s.handles

/-! ### Looking at areas -/

/-- An operation on areas leaves the rest alone. -/
@[simp]
theorem ends_onAreas {x : Op AreaList α} {Q : α → Space c × ω → Prop}
    {R : Error → Space c × ω → Prop} :
  (onAreas x).Ends s Q R ↔ x.Ends s.1.areas
    (fun a l => Q a (⟨l, s.1.handles, s.1.paging⟩, s.2))
    (fun e l => R e (⟨l, s.1.handles, s.1.paging⟩, s.2))
  := Iff.rfl

/-- The search for the heap finds it. -/
theorem ends_area (h : s.1.areas.HasHeap heap others) {Q : Area → Space c × ω → Prop}
    {R : Error → Space c × ω → Prop} :
  (area heapId).Ends s Q R ↔ Q heap s
  := by
  rw [area, ends_onAreas, ends_find, h.lookup?]

/-- The heap is changed in its place. -/
theorem ends_updateHeap (h : s.1.areas.HasHeap heap others) {f : Area → Area}
    {Q : Unit → Space c × ω → Prop} {R : Error → Space c × ω → Prop} :
  (updateAreas (·.modify heapId f)).Ends s Q R ↔
    Q () (⟨⟨f heap :: others⟩, s.1.handles, s.1.paging⟩, s.2)
  := by
  rw [updateAreas, ends_onAreas, Op.ends_modify, h.modify_heap]

/-! ### Taking bytes of the heap -/

variable [Backing ω]

/-- A request for growth ends as the growth of the area does. -/
theorem ends_growArea {Q : Unit → Space c × ω → Prop} {R : Error → Space c × ω → Prop}
    (grown : ∀ r t, Growth c id size (Paging.mapAddresses stores)
      (s.1.areas, s.1.paging, s.2) (.ok r) t → Q () (⟨t.1, s.1.handles, t.2.1⟩, t.2.2))
    (failed : ∀ e t, Growth c id size (Paging.mapAddresses stores)
      (s.1.areas, s.1.paging, s.2) (.error e) t → R e (⟨t.1, s.1.handles, t.2.1⟩, t.2.2)) :
  (growArea stores id size).Ends s Q R
  := by
  have ends : Growth c id size (Paging.mapAddresses stores) (s.1.areas, s.1.paging, s.2) _ _
    := grow_ends
  simp only [growArea, Op.ends_bind, Op.ends_emit, Op.ends_pure]
  show Op.Ends (AreaList.grow c id size (Paging.mapAddresses stores))
    (s.1.areas, s.1.paging, s.2) (fun _ t => Q () (⟨t.1, s.1.handles, t.2.1⟩, t.2.2))
    (fun e t => R e (⟨t.1, s.1.handles, t.2.1⟩, t.2.2))
  apply (Op.ends_iff_answer.mpr ends).mono
  · apply grown
  · apply failed

/-- A request for growth by nothing is carried out and changes nothing. -/
theorem ends_growArea_zero {Q : Unit → Space c × ω → Prop} {R : Error → Space c × ω → Prop} :
  (growArea stores id 0).Ends s Q R ↔ Q () s
  := by
  simp only [growArea, AreaList.grow, Op.ends_bind, Op.ends_emit, if_pos]
  rfl

/-- The number of bytes by which the heap is asked to grow when no free region has enough. -/
def heapIncrement (c : Config) (size : Nat) : Nat := Word.saturatingAdd (c.alignUp size) c.pageSize

/-- The heap is never asked to grow by nothing, if there are bytes in a page. -/
theorem heapIncrement_ne_zero (pos : 0 < c.pageSize) :
  heapIncrement c size ≠ 0
  := by
  rw [heapIncrement, Word.saturatingAdd, Word.greatest]
  omega

/-- The first `size` bytes behind an address, the end taken as a word. -/
def grownRegion (start size : Nat) : Region := ⟨start, Word.wrap (start + size)⟩

/-- The ways in which taking bytes of the heap ends. -/
inductive Taking (stores : Stores) (size : Nat) (heap : Area) (others : List Area) :
    Space c × ω → Except Error Region → Space c × ω → Prop
  | fit {s : Space c × ω} {left : Area} {taken : Region}
      (fit : heap.firstFit? size = some (taken, left)) :
    Taking stores size heap others s (.ok taken)
      (⟨⟨left :: others⟩, s.1.handles, s.1.paging⟩, s.2)
  | refused {s : Space c × ω} {e : Error} {t : Paging c × ω}
      (full : heap.firstFit? size = none) (nonzero : heapIncrement c size ≠ 0)
      (growth : Growth c heapId (heapIncrement c size) (Paging.mapAddresses stores)
        (s.1.areas, s.1.paging, s.2) (.error e) (s.1.areas, t)) :
    Taking stores size heap others s (.error .outOfSpace)
      (⟨s.1.areas, s.1.handles, t.1⟩, t.2)
  | ungrown {s : Space c × ω} (full : heap.firstFit? size = none)
      (zero : heapIncrement c size = 0) :
    Taking stores size heap others s (.ok (grownRegion heap.brk size))
      (⟨⟨heap.enlistFree ⟨(grownRegion heap.brk size).stop, heap.stop⟩ :: others⟩, s.1.handles,
        s.1.paging⟩, s.2)
  | grown {s : Space c × ω} {new : Nat} (full : heap.firstFit? size = none)
      (nonzero : heapIncrement c size ≠ 0)
      (sum : Word.add? heap.stop (c.alignUp (heapIncrement c size)) = some new)
      (vacant : ¬ s.1.areas.Blocked heapId ⟨heap.stop, new⟩)
      (mapped : (Paging.mapAddresses stores heap.stop new (s.1.paging, s.2)).answer = .ok ()) :
    Taking stores size heap others s (.ok (grownRegion heap.brk size))
      (⟨⟨(heap.extendTo new).enlistFree ⟨(grownRegion heap.brk size).stop, new⟩ :: others⟩,
        s.1.handles, (Paging.mapAddresses stores heap.stop new (s.1.paging, s.2)).state.1⟩,
        (Paging.mapAddresses stores heap.stop new (s.1.paging, s.2)).state.2)

theorem takeRegion_ends (h : s.1.areas.HasHeap heap others) :
  Taking stores size heap others s (takeRegion stores size s).answer
    (takeRegion stores size s).state
  := by
  apply Op.ends_iff_answer.mp
  simp only [takeRegion, Op.ends_bind, ends_area h]
  rcases fit : heap.firstFit? size with - | ⟨taken, left⟩
  · simp only [growHeap, Op.ends_bind, ends_area h, Op.ends_mapError, Op.ends_onFailure,
      Op.ends_emit]
    rw [← heapIncrement]
    by_cases zero : heapIncrement c size = 0
    · rw [zero, ends_growArea_zero, ends_area h, ends_updateHeap h]
      apply Taking.ungrown fit zero
    · apply ends_growArea
      · intro r t growth
        cases growth with
        | nothing zero' => exact absurd zero' zero
        | @grown _ _ a new found sum vacant mapped =>
            rw [h.lookup?] at found
            cases found
            have h' : HasHeap ⟨heap.extendTo new :: others⟩ (heap.extendTo new) others
              := h.replace rfl
            rw [h.modify_heap, ends_area h', ends_updateHeap h']
            apply Taking.grown fit zero sum vacant mapped
      · rintro e ⟨areas, t⟩ growth
        obtain rfl := growth.areas_eq
        apply Taking.refused fit zero growth
  · simp only [Op.ends_bind, ends_updateHeap h]
    apply Taking.fit fit

/-- Bytes that cannot be taken leave areas and handles alone. -/
theorem Taking.tables_eq {e : Error} (h : Taking stores size heap others s (.error e) s') :
  SameTables s.1 s'.1
  := by
  cases h with
  | refused full nonzero growth =>
      constructor
      · rfl
      · rfl

theorem Taking.handles_eq {answer : Except Error Region}
    (h : Taking stores size heap others s answer s') :
  s'.1.handles = s.1.handles
  := by
  cases h with
  | fit fit => rfl
  | refused full nonzero growth => rfl
  | ungrown full zero => rfl
  | grown full nonzero sum vacant mapped => rfl

/-- The number of the heap stays when a region is put at the head of the free ones. -/
@[simp]
theorem id_enlistFree {r : Region} :
  (heap.enlistFree r).id = heap.id
  := by
  rw [Area.enlistFree]
  split
  · rfl
  · rfl

@[simp]
theorem stop_enlistFree {r : Region} :
  (heap.enlistFree r).stop = heap.stop
  := by
  rw [Area.enlistFree]
  split
  · rfl
  · rfl

/-- The heap is the first area after bytes of it are taken. -/
theorem Taking.exists_heap {r : Region} (h : Taking stores size heap others s (.ok r) s')
    (has : s.1.areas.HasHeap heap others) :
  ∃ heap', s'.1.areas.HasHeap heap' others
  := by
  cases h with
  | @fit left _ fit =>
      obtain ⟨⟨taken', left'⟩, -, eq⟩ := Option.map_eq_some_iff.mp fit
      cases eq
      apply Exists.intro
      exact has.replace rfl
  | ungrown full zero =>
      apply Exists.intro
      apply has.replace id_enlistFree
  | grown full nonzero sum vacant mapped =>
      apply Exists.intro
      exact has.replace id_enlistFree

/-! ### Allocating -/

/-- The space after a region becomes free. -/
def freed (s : Space c) (heap : Area) (others : List Area) (r : Region) : Space c :=
  { s with areas := ⟨heap.enlistFree r :: others⟩ }

/-- The space after a handle is bound. -/
def bound (s : Space c) (handle : Nat) (r : Region) : Space c :=
  { s with handles := { s.handles with bindings := s.handles.bindings.insert handle r } }

/-- A handle below the capacity is bound, and the region that it was bound to becomes free. -/
theorem ends_bindHandle {ω : Type} {s : Space c × ω} {r : Region}
    (h : s.1.areas.HasHeap heap others) (room : handle < s.1.handles.capacity)
    {Q : Unit → Space c × ω → Prop} {R : Error → Space c × ω → Prop} :
  (bindHandle handle r).Ends s Q R ↔ match s.1.handles.bindings.get? handle with
    | some previous => if previous.isEmpty = true then Q () (s.1.bound handle r, s.2)
      else Q () ((s.1.freed heap others previous).bound handle r, s.2)
    | none => Q () (s.1.bound handle r, s.2)
  := by
  simp only [bindHandle, setHandles, HandleTable.set, if_pos room, Op.ends_bind, Op.ends_gets,
    Op.ends_ofExcept, Op.ends_onFirst, Op.ends_modify]
  cases s.1.handles.bindings.get? handle with
  | none => rfl
  | some previous =>
      dsimp only
      split
      · rfl
      · have h' : (s.1.bound handle r).areas.HasHeap heap others := h
        simp only [enlistFree, Op.ends_bind, Op.ends_emit]
        apply (ends_area (s := (s.1.bound handle r, s.2)) h').trans
        apply ends_updateHeap (s := (s.1.bound handle r, s.2)) h'

/-- The ways in which an allocation ends. -/
inductive Allocation (stores : Stores) (handle size : Nat) (heap : Area) (others : List Area) :
    Space c × ω → Except Error Nat → Space c × ω → Prop
  | nothing {s : Space c × ω} (zero : size = 0) :
    Allocation stores handle size heap others s (.error .invalidSize) s
  | noHandle {s : Space c × ω} (some : size ≠ 0) (beyond : c.handleCapacity ≤ handle) :
    Allocation stores handle size heap others s (.error (.invalidHandle handle)) s
  | untaken {s s' : Space c × ω} {e : Error} (some : size ≠ 0)
      (below : handle < c.handleCapacity)
      (taking : Taking stores size heap others s (.error e) s') :
    Allocation stores handle size heap others s (.error e) s'
  | fresh {s s' : Space c × ω} {r : Region} (some : size ≠ 0)
      (below : handle < c.handleCapacity)
      (taking : Taking stores size heap others s (.ok r) s')
      (idle : ∀ previous, s.1.handles.bindings.get? handle = .some previous →
        previous.isEmpty = true) :
    Allocation stores handle size heap others s (.ok r.start) (s'.1.bound handle r, s'.2)
  | rebound {s s' : Space c × ω} {r previous : Region} {heap' : Area} (some : size ≠ 0)
      (below : handle < c.handleCapacity)
      (taking : Taking stores size heap others s (.ok r) s')
      (has : s'.1.areas.HasHeap heap' others)
      (found : s.1.handles.bindings.get? handle = .some previous)
      (busy : previous.isEmpty = false) :
    Allocation stores handle size heap others s (.ok r.start)
      ((s'.1.freed heap' others previous).bound handle r, s'.2)

theorem allocate_ends (h : s.1.areas.HasHeap heap others)
    (capacity : s.1.handles.capacity = c.handleCapacity) :
  Allocation stores handle size heap others s (allocate stores handle size s).answer
    (allocate stores handle size s).state
  := by
  apply Op.ends_iff_answer.mp
  rw [allocate]
  split
  · next zero => apply Allocation.nothing zero
  · next some =>
      split
      · next beyond => apply Allocation.noHandle some beyond
      · next below =>
          have below : handle < c.handleCapacity := Nat.lt_of_not_le below
          rw [Op.ends_bind]
          apply (Op.ends_iff_answer.mpr (takeRegion_ends h)).mono
          · rintro r ⟨s', w'⟩ taking
            obtain ⟨heap', h'⟩ := taking.exists_heap h
            have handles : s'.handles = s.1.handles := taking.handles_eq
            have room : handle < s'.handles.capacity := by rw [handles, capacity]; apply below
            simp only [Op.ends_bind, ends_bindHandle (s := (s', w')) h' room, ends_reportAfter,
              Op.ends_pure, handles]
            rcases found : s.1.handles.bindings.get? handle with - | previous
            · apply Allocation.fresh some below taking
              intro previous found'
              rw [found] at found'
              cases found'
            · dsimp only
              split
              · next empty =>
                  apply Allocation.fresh some below taking
                  intro previous' found'
                  rw [found] at found'
                  cases found'
                  apply empty
              · next busy =>
                  apply Allocation.rebound some below taking h' found
                  apply Bool.eq_false_of_not_eq_true busy
          · intro e s' taking
            apply Allocation.untaken some below taking

/-- An allocation that fails leaves areas and handles alone. -/
theorem Allocation.tables_eq {e : Error}
    (h : Allocation stores handle size heap others s (.error e) s') :
  SameTables s.1 s'.1
  := by
  cases h with
  | nothing zero =>
      constructor
      · rfl
      · rfl
  | noHandle some beyond =>
      constructor
      · rfl
      · rfl
  | untaken some below taking => apply taking.tables_eq

/-! ### Freeing -/

/-- The space after a handle is unbound. -/
def unbound (s : Space c) (handle : Nat) : Space c :=
  { s with handles := { s.handles with bindings := s.handles.bindings.erase handle } }

/-- The ways in which freeing a handle ends. -/
inductive Freeing {ω : Type} (handle : Nat) (heap : Area) (others : List Area) :
    Space c × ω → Except Error Region → Space c × ω → Prop
  | unbound {s : Space c × ω} {e : Error} (missing : s.1.handles.get handle = .error e) :
    Freeing handle heap others s (.error e) s
  | freed {s : Space c × ω} {r : Region} (found : s.1.handles.get handle = .ok r) :
    Freeing handle heap others s (.ok r) ((s.1.freed heap others r).unbound handle, s.2)

theorem free_ends {ω : Type} {s : Space c × ω} (h : s.1.areas.HasHeap heap others) :
  Freeing handle heap others s (free handle s).answer (free handle s).state
  := by
  apply Op.ends_iff_answer.mp
  simp only [free, setHandles, HandleTable.take, Op.ends_bind, Op.ends_gets, Op.ends_ofExcept]
  rcases found : s.1.handles.get handle with e | r
  · apply Freeing.unbound found
  · have h' : (s.1.unbound handle).areas.HasHeap heap others := h
    simp only [ends_area h, Op.ends_onFirst, Op.ends_modify]
    apply (ends_updateHeap (s := (s.1.unbound handle, s.2)) h').mpr
    simp only [ends_reportAfter, Op.ends_pure]
    apply Freeing.freed found

/-! ### Commands -/

/-- An access leaves areas and handles alone, however it ends. -/
theorem sameTables_of_isAccess {command : Command} (access : command.IsAccess) :
  SameTables s.1 (command.run stores s).state.1
  := by
  have kept : (command.run stores : Op (Space c × ω) Answer).Preserves
      (OnTables fun areas handles => areas = s.1.areas ∧ handles = s.1.handles)
    := tables_run access
  obtain ⟨areas, handles⟩ := kept.state s ⟨rfl, rfl⟩
  use areas, handles

/-- The ways in which a command ends, as far as areas and handles are concerned. -/
inductive Change (stores : Stores) (heap : Area) (others : List Area) (s : Space c × ω) :
    Command → Except Error Answer → Space c × ω → Prop
  | access {command : Command} {answer : Except Error Answer} {s' : Space c × ω}
      (access : command.IsAccess) (same : SameTables s.1 s'.1) :
    Change stores heap others s command answer s'
  | allocation {handle size : Nat} {answer : Except Error Nat} {s' : Space c × ω}
      (allocation : Allocation stores handle size heap others s answer s') :
    Change stores heap others s (.allocate handle size) (answer.map .address) s'
  | freeing {handle : Nat} {answer : Except Error Region} {s' : Space c × ω}
      (freeing : Freeing handle heap others s answer s') :
    Change stores heap others s (.free handle) (answer.map .region) s'
  | insertion {id start stop : Nat} {answer : Except Error Unit} {areas : AreaList}
      (insertion : Insertion (.spanning id start stop) s.1.areas answer areas) :
    Change stores heap others s (.addArea id start stop) (answer.map fun _ => .done)
      (⟨areas, s.1.handles, s.1.paging⟩, s.2)
  | growth {id size : Nat} {answer : Except Error Region} {areas : AreaList} {t : Paging c × ω}
      (growth : Growth c id size (Paging.mapAddresses stores) (s.1.areas, s.1.paging, s.2) answer
        (areas, t)) :
    Change stores heap others s (.serve (.growArea id size)) (answer.map fun _ => .done)
      (⟨areas, s.1.handles, t.1⟩, t.2)

theorem run_ends (h : s.1.areas.HasHeap heap others)
    (capacity : s.1.handles.capacity = c.handleCapacity) {command : Command} :
  Change stores heap others s command (command.run stores s).answer (command.run stores s).state
  := by
  have access (access : command.IsAccess) :
      Change stores heap others s command (command.run stores s).answer
        (command.run stores s).state
    := Change.access access (sameTables_of_isAccess access)
  cases command with
  | allocate handle size =>
      rw [Command.run, Op.answer_map, Op.state_map]
      exact .allocation (allocate_ends h capacity)
  | free handle =>
      rw [Command.run, Op.answer_map, Op.state_map]
      exact .freeing (free_ends h)
  | addArea id start stop =>
      rw [Command.run, Op.answer_map, Op.state_map]
      exact .insertion insert_ends
  | serve request =>
      cases request with
      | growArea id size =>
          apply Op.ends_iff_answer.mp
          simp only [Command.run, Space.serve, Op.ends_map, Op.ends_bind, Op.ends_pure]
          apply ends_growArea
          · intro r t growth
            exact Change.growth growth
          · intro e t growth
            exact Change.growth growth
      | copyToSwap frame slot => exact access trivial
      | load address => exact access trivial
      | store address value => exact access trivial
  | read handle offset => exact access trivial
  | write handle offset value => exact access trivial
  | release => exact access trivial

end VirtualMemory.Space
