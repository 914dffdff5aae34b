import VirtualMemory.Proofs.Area.Order
import VirtualMemory.Proofs.Paging.Within
import VirtualMemory.Proofs.Space.Demand

/-!
# The heap and the pages stay inside the address space

In every state of an address space the heap ends at the end of the last page or before, and a page
that has a frame or a slot is below the limit and holds an address of an area.  The initial
heap obeys the bound since the configuration is valid.  It then grows only if the last page of the
new part is below the limit.  A page gets its place when an address of it is accessed, which must
lie in an area if pages are translated, or when an area grows, and areas never shrink.
-/

namespace VirtualMemory

open AreaList

variable {c : Config} {ω : Type} {l l' : AreaList}

/-- The page holds an address of an area. -/
def AreaList.Touches (l : AreaList) (c : Config) (page : Nat) : Prop :=
  ∃ a ∈ l.areas, ∃ address ∈ a.range, c.pageOf address = page

theorem AreaList.Touches.mono {page : Nat} (ext : l.Extends l') (h : l.Touches c page) :
  l'.Touches c page
  := by
  obtain ⟨a, mem, address, ⟨ge, lt⟩, same⟩ := h
  obtain ⟨a', mem', -, start, le⟩ := ext a mem
  use a', mem', address
  constructor
  · constructor
    · show a'.start ≤ address
      rw [start]
      apply ge
    · apply lt_of_lt_of_le lt le
  · apply same

theorem AreaList.touches_of_covering {address : Nat}
    (covered : (l.covering? address).isSome = true) :
  l.Touches c (c.pageOf address)
  := by
  rw [covering?, List.find?_isSome] at covered
  obtain ⟨a, mem, inside⟩ := covered
  use a, mem, address
  constructor
  · apply of_decide_eq_true inside
  · rfl

/-- What is demanded of the pages belongs to areas, at the latest when it is met. -/
def Demand.Inside [Backing ω] (l : AreaList) (stores : Stores) (s : Paging c × ω) : Demand → Prop
  | nothing | release => True
  | page number => c.mode = .paged → l.Touches c number
  | range start stop => (Paging.mapAddresses stores start stop s).answer = .ok () →
    ∃ a ∈ l.areas, a.start ≤ start ∧ stop ≤ a.stop

theorem Demand.Inside.mono [Backing ω] {stores : Stores} {s : Paging c × ω} {demand : Demand}
    (ext : l.Extends l') (h : demand.Inside l stores s) :
  demand.Inside l' stores s
  := by
  cases demand with
  | nothing => trivial
  | release => trivial
  | page number =>
      intro mode
      apply (h mode).mono ext
  | range start stop =>
      intro ok
      obtain ⟨a, mem, ge, le⟩ := h ok
      obtain ⟨a', mem', -, start_eq, le'⟩ := ext a mem
      use a', mem', start_eq ▸ ge
      apply le_trans le le'

/-- A page that has become dirty has its place as before. -/
theorem Paging.Marked.within {p p' : Paging c} {A : Nat → Prop} (marked : p.Marked p')
    (fits : c.maxPages ≤ pageLimit) (w : p.Within A) :
  p'.Within A
  := by
  cases marked with
  | same => apply w
  | dirty below resident => apply w.setDirty (lt_of_lt_of_le below fits) resident

namespace Space

open Command

variable [Backing ω] {stores : Stores} {s s' : Space c × ω} {heap : Area} {others : List Area}
variable {id handle size address direct offset : Nat} {command : Command}

/-! ### Areas never shrink -/

/-- Bytes that are taken leave the areas in order, and none of them shrinks. -/
theorem Taking.extends {r : Region} (h : Taking stores size heap others s (.ok r) s')
    (has : s.1.areas.HasHeap heap others) (order : s.1.areas.Orderly) :
  s'.1.areas.Orderly ∧ s.1.areas.Extends s'.1.areas
  := by
  have areas : s.1.areas = ⟨heap :: others⟩ := congrArg AreaList.mk has.areas
  cases h with
  | @fit left r fit =>
      obtain ⟨⟨taken, free⟩, -, eq⟩ := Option.map_eq_some_iff.mp fit
      cases eq
      rw [areas] at order ⊢
      apply order.withFree
  | grown full nonzero' sum vacant mapped =>
      obtain ⟨order', ext⟩ := order.growth (s := (s.1.areas, s.1.paging, s.2))
        (.grown has.lookup? sum vacant mapped)
      rw [has.modify_heap] at order' ext
      use order'.enlistFree.1
      apply ext.trans order'.enlistFree.2
  | ungrown full zero =>
      rw [areas] at order ⊢
      apply order.enlistFree

theorem SameTables.extends {s s' : Space c} (same : SameTables s s') (order : s.areas.Orderly) :
  s'.areas.Orderly ∧ s.areas.Extends s'.areas
  := by
  rw [same.areas]
  apply order.unmoved

/-- A region that becomes free leaves the areas in order. -/
theorem extends_freed {s : Space c} {r : Region} (has : s.areas.HasHeap heap others)
    (order : s.areas.Orderly) :
  (s.freed heap others r).areas.Orderly ∧ s.areas.Extends (s.freed heap others r).areas
  := by
  have areas : s.areas = ⟨heap :: others⟩ := congrArg AreaList.mk has.areas
  rw [areas] at order ⊢
  apply order.enlistFree

theorem Allocation.extends {answer : Except Error Nat}
    (h : Allocation stores handle size heap others s answer s')
    (has : s.1.areas.HasHeap heap others) (order : s.1.areas.Orderly) :
  s'.1.areas.Orderly ∧ s.1.areas.Extends s'.1.areas
  := by
  cases h with
  | nothing zero => apply order.unmoved
  | noHandle some beyond => apply order.unmoved
  | untaken some below taking => apply taking.tables_eq.extends order
  | fresh some below taking idle => exact taking.extends has order
  | rebound some below taking has' found busy =>
      obtain ⟨order', ext⟩ := taking.extends has order
      obtain ⟨order'', ext'⟩ := extends_freed has' order'
      use order''
      apply ext.trans ext'

/-- Every command leaves the areas in order, and none of them shrinks. -/
theorem Change.extends {answer : Except Error Answer}
    (change : Change stores heap others s command answer s')
    (has : s.1.areas.HasHeap heap others) (order : s.1.areas.Orderly) :
  s'.1.areas.Orderly ∧ s.1.areas.Extends s'.1.areas
  := by
  cases change with
  | access access same => apply same.extends order
  | allocation allocation => apply allocation.extends has order
  | freeing freeing =>
      cases freeing with
      | unbound missing => apply order.unmoved
      | freed found => exact extends_freed has order
  | insertion insertion => apply order.insertion rfl insertion
  | growth growth => apply order.growth growth

/-! ### Demands belong to areas -/

theorem accessDemand_inside {t : Paging c × ω} :
  (s.1.accessDemand stores address).Inside s.1.areas stores t
  := by
  rw [accessDemand]
  split
  · next admitted =>
      intro mode
      apply touches_of_covering (admitted.2 mode)
  · trivial

theorem regionDemand_inside {t : Paging c × ω} :
  (s.1.regionDemand stores handle offset).Inside s.1.areas stores t
  := by
  rw [regionDemand]
  split
  · trivial
  · split
    · trivial
    · apply accessDemand_inside

/-- The pages that the growth of an area demands belong to the area after the growth. -/
theorem growthDemand_inside {answer : Except Error Region} {after : AreaList × Paging c × ω}
    (order : s.1.areas.Orderly) (nonzero : size ≠ 0)
    (growth : Growth c id size (Paging.mapAddresses stores) (s.1.areas, s.1.paging, s.2) answer
      after) :
  (s.1.growthDemand id size).Inside after.1 stores (s.1.paging, s.2)
  := by
  rcases growth_cases nonzero growth with ⟨demand, -⟩ | ⟨a, stop, found, demand, -, grown⟩
  · rw [demand]
    trivial
  · rw [demand]
    intro ok
    obtain ⟨mem, same⟩ := (lookup?_eq_some_iff order.ascending).mp found
    rw [grown ok]
    apply Exists.intro
    use mem_modify.mpr ⟨a, mem, if_pos same⟩, (order.spanned a mem).1
    apply Nat.le_refl

theorem Taking.inside {answer : Except Error Region}
    (h : Taking stores size heap others s answer s') (has : s.1.areas.HasHeap heap others)
    (order : s.1.areas.Orderly) (nonzero : size ≠ 0) (below : handle < c.handleCapacity) :
  (s.1.allocationDemand handle size).Inside s'.1.areas stores (s.1.paging, s.2)
  := by
  cases h with
  | fit fit =>
      simp only [allocationDemand, has.lookup?, fit, Option.isSome_some, or_true, if_true]
      trivial
  | refused full nonzero' growth =>
      rw [allocationDemand_of_full has nonzero below full]
      apply growthDemand_inside order nonzero' growth
  | grown full nonzero' sum vacant mapped =>
      have growth := Growth.grown has.lookup? sum vacant mapped
      obtain ⟨order', -⟩ := order.growth growth
      have inside := growthDemand_inside order nonzero' growth
      rw [has.modify_heap] at order' inside
      rw [allocationDemand_of_full has nonzero below full]
      apply inside.mono order'.enlistFree.2
  | ungrown full zero =>
      rw [allocationDemand_of_full has nonzero below full, zero, growthDemand_zero]
      trivial

theorem Allocation.inside {answer : Except Error Nat}
    (h : Allocation stores handle size heap others s answer s')
    (has : s.1.areas.HasHeap heap others) (order : s.1.areas.Orderly) :
  (s.1.allocationDemand handle size).Inside s'.1.areas stores (s.1.paging, s.2)
  := by
  cases h with
  | nothing zero =>
      simp only [allocationDemand, has.lookup?, zero, true_or, if_true]
      trivial
  | noHandle nonzero beyond =>
      simp only [allocationDemand, has.lookup?, beyond, true_or, or_true, if_true]
      trivial
  | untaken nonzero below taking => apply taking.inside has order nonzero below
  | fresh nonzero below taking idle => exact taking.inside has order nonzero below
  | rebound nonzero below taking has' found busy =>
      have inside := taking.inside has order nonzero below
      obtain ⟨order', -⟩ := taking.extends has order
      exact inside.mono (extends_freed has' order').2

/-- What a command demands of the pages belongs to the areas after the command. -/
theorem Change.inside {answer : Except Error Answer}
    (change : Change stores heap others s command answer s')
    (has : s.1.areas.HasHeap heap others) (order : s.1.areas.Orderly) :
  (s.1.demand stores command).Inside s'.1.areas stores (s.1.paging, s.2)
  := by
  cases change with
  | @access command answer s' access same =>
      rw [same.areas]
      cases command with
      | read handle offset => apply regionDemand_inside
      | write handle offset value => apply regionDemand_inside
      | serve request =>
          cases request with
          | load address => apply accessDemand_inside
          | store address value => apply accessDemand_inside
          | copyToSwap frame slot => trivial
          | growArea id size => cases access
      | release => trivial
      | allocate handle size => cases access
      | free handle => cases access
      | addArea id start stop => cases access
  | allocation allocation => exact allocation.inside has order
  | freeing freeing => trivial
  | insertion insertion => trivial
  | @growth id size answer areas t growth =>
      rcases Nat.eq_zero_or_pos size with rfl | pos
      · rw [demand, growthDemand_zero]
        trivial
      · exact growthDemand_inside order (Nat.ne_of_gt pos) growth

/-! ### The end of the heap -/

section Bounded

variable (valid : c.validate = .ok ()) (bounded : c.maxPages * c.pageSize ≤ 2 ^ 63)
include valid bounded

/-- What the heap grows by ends at the end of the last page or before. -/
theorem Taking.stop_le {r : Region} (h : Taking stores size heap others s (.ok r) s')
    (has : s.1.areas.HasHeap heap others) (le : heap.stop ≤ c.maxPages * c.pageSize) :
  ∃ heap', s'.1.areas.HasHeap heap' others ∧ heap'.stop ≤ c.maxPages * c.pageSize
  := by
  cases h with
  | @fit left r fit =>
      obtain ⟨⟨taken, free⟩, -, eq⟩ := Option.map_eq_some_iff.mp fit
      cases eq
      apply Exists.intro
      use has.replace rfl, le
  | grown full nonzero' sum vacant mapped =>
      apply Exists.intro
      use has.replace id_enlistFree
      rw [stop_enlistFree]
      apply stop_le_of_mapped valid bounded (lt_of_sum valid sum) mapped
  | ungrown full zero =>
      apply Exists.intro
      use has.replace id_enlistFree
      rw [stop_enlistFree]
      apply le

theorem Allocation.stop_le {answer : Except Error Nat}
    (h : Allocation stores handle size heap others s answer s')
    (has : s.1.areas.HasHeap heap others) (le : heap.stop ≤ c.maxPages * c.pageSize) :
  ∃ heap', s'.1.areas.HasHeap heap' others ∧ heap'.stop ≤ c.maxPages * c.pageSize
  := by
  cases h with
  | nothing zero =>
      use heap
  | noHandle some beyond =>
      use heap
  | untaken some below taking =>
      rw [taking.tables_eq.areas]
      use heap
  | fresh some below taking idle =>
      obtain ⟨heap', has', le'⟩ := taking.stop_le valid bounded has le
      use heap', has', le'
  | rebound some below taking has' found busy =>
      obtain ⟨heap', has'', le'⟩ := taking.stop_le valid bounded has le
      obtain ⟨rfl, -⟩ := List.cons.inj (has'.areas.symm.trans has''.areas)
      apply Exists.intro
      use has'.replace id_enlistFree
      rw [stop_enlistFree]
      apply le'

/-- Every command leaves the end of the heap below the limit. -/
theorem Change.stop_le {answer : Except Error Answer}
    (change : Change stores heap others s command answer s')
    (has : s.1.areas.HasHeap heap others) (le : heap.stop ≤ c.maxPages * c.pageSize) :
  ∃ heap' others', s'.1.areas.HasHeap heap' others' ∧ heap'.stop ≤ c.maxPages * c.pageSize
  := by
  cases change with
  | access access same =>
      rw [same.areas]
      use heap, others
  | allocation allocation =>
      obtain ⟨heap', has', le'⟩ := allocation.stop_le valid bounded has le
      use heap', others
  | freeing freeing =>
      cases freeing with
      | unbound missing =>
          use heap, others
      | freed found =>
          apply Exists.intro
          use others, has.replace id_enlistFree
          rw [stop_enlistFree]
          apply le
  | insertion insertion =>
      obtain ⟨others', has', -⟩ := insertion.exists_heap has
      use heap, others'
  | growth growth =>
      rcases growth.heap_cases has with ⟨others', has', -⟩ | ⟨-, stop, sum, mapped, rfl⟩
      · use heap, others'
      · apply Exists.intro
        use others, has.replace rfl
        apply stop_le_of_mapped valid bounded (lt_of_sum valid sum) mapped

/-! ### Pages in areas -/

/-- Met inside the areas, a demand gives places to pages of areas only. -/
theorem within_met {demand : Demand} (fits : c.maxPages ≤ pageLimit) (a : s.1.paging.Agreement)
    (w : s.1.paging.Within (l.Touches c)) (inside : demand.Inside l stores (s.1.paging, s.2)) :
  (met s stores demand).1.Within (l.Touches c)
  := by
  have word := Config.pageSize_lt_bound valid bounded
  cases demand with
  | nothing => apply w
  | page number =>
      rw [met, Demand.run, Op.state_map]
      apply Paging.resolve_ends.within fits a w inside
  | range start stop =>
      apply Paging.mapAddresses_ends.within fits a w
      intro lt ok page ge le
      obtain ⟨a, mem, start_le, le_stop⟩ := inside ok
      obtain ⟨address, ge', lt', same⟩ := Config.exists_pageOf_eq valid word lt ge le
      use a, mem, address
      constructor
      · use le_trans start_le ge'
        apply lt_of_lt_of_le lt' le_stop
      · apply same
  | release =>
      rw [met, Demand.run, Op.state_map]
      apply Paging.releaseAll_ends.within w

/-- The areas are in order, the heap ends at the end of the last page or before, and only pages of
areas have a place. -/
structure Bounds (s : Space c) : Prop where
  order : s.areas.Orderly
  heap : ∃ heap others, s.areas.HasHeap heap others ∧ heap.stop ≤ c.maxPages * c.pageSize
  agreement : s.paging.Agreement
  within : s.paging.Within (s.areas.Touches c)

omit bounded in
theorem bounds_new :
  (new c).Bounds
  := by
  obtain ⟨heap, ledger, stop⟩ := ledger_new (c := c)
  constructor
  · exact (orderly_single (a := .spanning heapId 0 c.initialHeapSize) (Nat.zero_le _)
      rfl).enlistFree.1
  · use heap, [], ledger.hasHeap
    rw [stop]
    apply le_trans (Config.meets_of_validate valid .initialHeapSize) (Nat.min_le_left _ _)
  · apply Paging.agreement_empty
  · apply Paging.within_empty

/-- Every command keeps the bounds. -/
theorem Bounds.run (h : s.1.Bounds) (tables : s.1.InOrder) :
  (command.run stores s).state.1.Bounds
  := by
  have fits := (Config.meets_of_validate valid .maxPages).2
  obtain ⟨heap, others, has, le⟩ := h.heap
  have change : Change stores heap others s command _ _ := run_ends has tables.capacity
  obtain ⟨order, ext⟩ := change.extends has h.order
  use order, change.stop_le valid bounded has le, agreement_run fits h.agreement
  apply tables.marked_run.within fits
  apply within_met valid bounded fits h.agreement
  · apply h.within.mono
    intro page touches
    apply touches.mono ext
  · apply change.inside has h.order

theorem Reaches.bounds {s : Space c} (reached : Reaches c ω s direct) :
  s.Bounds
  := by
  induction reached with
  | start => apply bounds_new valid
  | @step s direct reached w stores command ih =>
      apply Bounds.run valid bounded (s := (s, w)) ih reached.inOrder

end Bounded

/-- The heap ends at the end of the last page or before, and each page with an entry is below the
limit and holds an address of an area. -/
structure Confined (s : Space c) : Prop where
  heap : ∃ heap, s.areas.lookup? heapId = some heap ∧ heap.stop ≤ c.maxPages * c.pageSize
  entries : ∀ b ∈ s.paging.table.entries, b.1 < c.maxPages ∧ s.areas.Touches c b.1

omit [Backing ω] in
theorem Bounds.confined {s : Space c} (h : s.Bounds) :
  s.Confined
  := by
  constructor
  · obtain ⟨heap, others, has, le⟩ := h.heap
    use heap, has.lookup?, le
  · rintro ⟨page, e⟩ mem
    obtain ⟨hp, ne, rfl⟩ := h.agreement.wellFormed.mem_entries.mp mem
    use (h.agreement.present page hp ne).2.1
    apply h.within.mem page hp ne

end Space

end VirtualMemory
