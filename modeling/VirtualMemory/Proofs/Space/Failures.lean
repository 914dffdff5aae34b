import VirtualMemory.Proofs.Heap.Accounting
import VirtualMemory.Proofs.System.Run

/-!
# What a failing command leaves alone

A command that fails leaves the areas, with their free regions in order, and the handle table as
they were, however far it got and whatever the stores answered; an access leaves them alone even
if it succeeds.  Only the pages and the stores may differ.  For this the heap must be the first
area and the handle table must have its capacity, or else an allocation could fail after bytes of
the heap were taken.  Every command keeps the tables in this order, whether or not the
configuration is valid, and whether or not a sum of addresses is still a word: such a sum makes no
command fail.
-/

namespace VirtualMemory.Space

open AreaList Command

variable {c : Config} {ω : Type} [Backing ω] {stores : Stores} {s s' : Space c × ω}
variable {heap : Area} {others : List Area} {handle size direct : Nat} {command : Command}

/-- The first area is the heap, and the handle table has the capacity of the configuration. -/
structure InOrder (s : Space c) : Prop where
  heap : ∃ heap others, s.areas.HasHeap heap others
  capacity : s.handles.capacity = c.handleCapacity

theorem inOrder_new :
  (new c).InOrder
  := by
  obtain ⟨heap, ledger, -⟩ := ledger_new (c := c)
  constructor
  · use heap, []
    apply ledger.hasHeap
  · apply ledger.capacity

theorem SameTables.inOrder {s s' : Space c} (same : SameTables s s') (h : s.InOrder) :
  s'.InOrder
  := by
  constructor
  · rw [same.areas]
    apply h.heap
  · rw [same.handles]
    apply h.capacity

/-! ### Commands that change the tables -/

/-- An allocation that succeeds leaves the tables in order. -/
theorem Allocation.inOrder {address : Nat} (has : s.1.areas.HasHeap heap others)
    (h : s.1.InOrder) (allocation : Allocation stores handle size heap others s (.ok address) s') :
  s'.1.InOrder
  := by
  cases allocation with
  | fresh some below taking idle =>
      constructor
      · obtain ⟨heap', has'⟩ := taking.exists_heap has
        use heap', others
        apply has'
      · exact (congrArg HandleTable.capacity taking.handles_eq).trans h.capacity
  | rebound some below taking has' found busy =>
      constructor
      · apply Exists.intro
        use others
        apply has'.replace id_enlistFree
      · exact (congrArg HandleTable.capacity taking.handles_eq).trans h.capacity

/-- A command that succeeds leaves the tables in order, and one that fails leaves them alone. -/
theorem InOrder.run_ends (h : s.1.InOrder) :
  (command.run stores).Ends s (fun _ s' => s'.1.InOrder) (fun _ s' => SameTables s.1 s'.1)
  := by
  obtain ⟨heap, others, has⟩ := h.heap
  have change : Change stores heap others s command _ _ := Space.run_ends has h.capacity
  rw [Op.Ends]
  generalize (command.run stores s).answer = answer at change ⊢
  generalize (command.run stores s).state = s' at change ⊢
  cases change with
  | access access same =>
      split
      · apply same.inOrder h
      · apply same
  | @allocation _ _ answer _ allocation =>
      cases answer with
      | ok address => exact allocation.inOrder has h
      | error e => exact allocation.tables_eq
  | freeing freeing =>
      cases freeing with
      | unbound missing =>
          constructor
          · rfl
          · rfl
      | freed found =>
          constructor
          · apply Exists.intro
            use others
            apply has.replace id_enlistFree
          · apply h.capacity
  | @insertion _ _ _ answer _ insertion =>
      cases answer with
      | ok u =>
          obtain ⟨others', has', -⟩ := insertion.exists_heap has
          constructor
          · use heap, others'
          · apply h.capacity
      | error e =>
          cases insertion with
          | taken found =>
              constructor
              · rfl
              · rfl
          | blocked absent blocked =>
              constructor
              · rfl
              · rfl
  | @growth _ _ answer _ _ growth =>
      cases answer with
      | ok r =>
          rcases growth.heap_cases has with ⟨others', has', -⟩ | ⟨-, stop, -, -, rfl⟩
          · constructor
            · use heap, others'
            · apply h.capacity
          · constructor
            · apply Exists.intro
              use others
              exact has.replace rfl
            · apply h.capacity
      | error e =>
          constructor
          · apply growth.areas_eq
          · rfl

/-- Every command leaves the tables in order. -/
theorem InOrder.run (h : s.1.InOrder) :
  (command.run stores s).state.1.InOrder
  := by
  apply Op.ends_iff_state (P := fun s' : Space c × ω => s'.1.InOrder).mp
  apply h.run_ends.mono
  · intro a s' order
    apply order
  · intro e s' same
    apply same.inOrder h

/-! ### Runs of one space -/

/-- In every state that a new space reaches, the tables are in order. -/
theorem Reaches.inOrder {s : Space c} (reached : Reaches c ω s direct) :
  s.InOrder
  := by
  induction reached with
  | start => apply inOrder_new
  | @step s direct reached w stores command ih => apply InOrder.run (s := (s, w)) ih

/-- In every state that a new space reaches, a command that fails leaves areas and handles alone,
and so does an access, however it ends. -/
theorem Reaches.sameTables {s : Space c} (reached : Reaches c ω s direct) (w : ω)
    (stores : Stores) (command : Command) :
  ((∃ e, (command.run stores (s, w)).answer = .error e) →
    SameTables s (command.run stores (s, w)).state.1) ∧
  (command.IsAccess → SameTables s (command.run stores (s, w)).state.1)
  := by
  constructor
  · rintro ⟨e, failed⟩
    have ends : (command.run stores).Ends (s, w) (fun _ s' => s'.1.InOrder)
        (fun _ s' => SameTables s s'.1)
      := InOrder.run_ends reached.inOrder
    rw [Op.Ends, failed] at ends
    apply ends
  · apply sameTables_of_isAccess (s := (s, w))

/-- One frame of the main memory that is not reserved, and one slot of the swap memory. -/
def crampedMemories : Memories := fun _ => .zeroed 4 2

/-- Growth by three pages that fails at the second page, and a byte that is written. -/
theorem sameTables_cramped :
  ∃ s : Space Config.small, Reaches Config.small Memories s 2 ∧
    ((Command.allocate 1 3).run {} (s, crampedMemories)).answer = .error .outOfSpace ∧
    SameTables s ((Command.allocate 1 3).run {} (s, crampedMemories)).state.1 ∧
    ((Command.serve (.store 1 7)).run {} (s, crampedMemories)).answer = .ok .done ∧
    SameTables s ((Command.serve (.store 1 7)).run {} (s, crampedMemories)).state.1
  := by
  have reached := Reaches.start.step (c := Config.small) crampedMemories {}
    (.serve (.growArea heapId 1))
  have failed : ((Command.allocate 1 3).run {} (((Command.serve (.growArea heapId 1)).run {}
      (new Config.small, crampedMemories)).state.1, crampedMemories)).answer = .error .outOfSpace
    := by decide +kernel
  have written : ((Command.serve (.store 1 7)).run {} (((Command.serve (.growArea heapId 1)).run {}
      (new Config.small, crampedMemories)).state.1, crampedMemories)).answer = .ok .done
    := by decide +kernel
  apply Exists.intro
  use reached, failed, (reached.sameTables crampedMemories {} (.allocate 1 3)).1 ⟨_, failed⟩,
    written
  exact (reached.sameTables crampedMemories {} (.serve (.store 1 7))).2 trivial

end VirtualMemory.Space
