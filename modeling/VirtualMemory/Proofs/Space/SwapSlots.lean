import VirtualMemory.Proofs.Paging.SwapSlots
import VirtualMemory.Proofs.Space.Demand

/-!
# Faults leave swapped pages in their slots

After any run of a space beside a main store that answers what it likes, a page fault that fails
should leave every page that was swapped in its slot, and the slot used and unchanged, so that a
later fault can bring the page back.  This is so for all faults of a run exactly if none of them
was spoiled, that is, unless a page comes back from its slot to a frame that no entry can hold.
Others may use the stores between commands, as long as they give back no slot of the space.
-/

namespace VirtualMemory

open Paging SwapBacked

variable {c : Config} {ω : Type} [SwapBacked ω] {stores : Stores} {s : Space c × ω}

/-! ### Faults -/

/-- A page that is resolved, the stores that are brought, and the pages and the stores before. -/
structure PageFault (c : Config) (ω : Type) where
  stores : Stores
  page : Nat
  before : Paging c × ω

namespace PageFault

/-- The fault of a page of a space, with both stores. -/
def of (s : Space c × ω) (page : Nat) : PageFault c ω := ⟨{}, page, (s.1.paging, s.2)⟩

/-- If the fault fails, every page that was swapped stays in its slot. -/
def Harmless (f : PageFault c ω) : Prop :=
  ∀ e, (resolve f.stores f.page f.before).answer = .error e →
    SlotsStay f.before (resolve f.stores f.page f.before).state

/-- A page comes back from its slot to a frame that no entry can hold. -/
def Spoiled (f : PageFault c ω) : Prop := Paging.Spoiled f.stores f.page f.before

theorem harmless_iff {f : PageFault c ω} (t : Slotted f.before) :
  f.Harmless ↔ ¬ f.Spoiled
  := resolve_ends.stay_iff t

/-- One more fault, before which the slots are in order if no earlier one was spoiled. -/
theorem harmless_cons_iff {f : PageFault c ω} {past : List (PageFault c ω)}
    (before : (∀ g ∈ past, ¬ g.Spoiled) → Slotted f.before)
    (earlier : (∀ g ∈ past, g.Harmless) ↔ ∀ g ∈ past, ¬ g.Spoiled) :
  (∀ g ∈ f :: past, g.Harmless) ↔ ∀ g ∈ f :: past, ¬ g.Spoiled
  := by
  rw [List.forall_mem_cons, List.forall_mem_cons, earlier]
  apply and_congr_left
  intro sound
  apply harmless_iff (before sound)

end PageFault

/-- The pages that are resolved for a demand.  For a range pages are mapped, but none comes back
from its slot. -/
def Demand.faults (stores : Stores) (s : Paging c × ω) : Demand → List (PageFault c ω)
  | page number => [⟨stores, number, s⟩]
  | nothing | range .. | release => []

/-! ### Commands -/

/-- Slots are in order after a demand, unless its fault was spoiled. -/
theorem Demand.slotted {demand : Demand} {t : Paging c × ω} (h : Slotted t)
    (sound : ∀ f ∈ demand.faults stores t, ¬ f.Spoiled) :
  Slotted (demand.run stores t).state
  := by
  cases demand with
  | nothing => apply h
  | page number =>
      rw [Demand.run, Op.state_map]
      have ends : Resolution stores number t _ _ := resolve_ends
      apply (ends.kept h (sound ⟨stores, number, t⟩ List.mem_cons_self)).1
  | range start stop => apply mapAddresses_ends.slotted h
  | release =>
      rw [Demand.run, Op.state_map]
      apply releaseAll_ends.slotted h

/-- What follows a demand leaves the slots in order. -/
theorem Paging.Followed.slotted {t t' : Paging c × ω} {written : Option Nat}
    (followed : Followed t written t') (h : Slotted t) :
  Slotted t'
  := by
  obtain ⟨p, w⟩ := t
  cases followed with
  | same => apply h
  | read address => apply (h.kept_of_eq rfl swap_readByte).slotted
  | unwritten address value => apply (h.kept_of_eq rfl (writeByte_ram address value w)).slotted
  | @written target address value below =>
      have written : Kept (p, w) (p, (Backing.writeByte .ram address value w).2)
        := h.kept_of_eq rfl (writeByte_ram address value w)
      have marked : p.Marked (p.afterWrite (c.pageOf target)) := marked_afterWrite below
      dsimp only
      generalize p.afterWrite (c.pageOf target) = p' at marked ⊢
      cases marked with
      | same => apply written.slotted
      | dirty below resident =>
          obtain ⟨frame, home⟩ := Entry.isResident_iff.mp resident
          apply written.slotted.setFrame
          · rw [Entry.place?_withDirty]
            apply home
          · apply h.fit _ frame home
  | copied frame slot =>
      have same := sameBut_copyPage_swap
        (Prod.eta (copyPage c.pageSize .ram frame .swap slot w)).symm
      apply h.withPool same.frameCount (same.poolsFrames h.pool)
      rw [same.free]
      apply h.used

namespace Space

variable {past : List (PageFault c ω)} {command : Command}

/-- Slots are in order after a command, unless its fault was spoiled. -/
theorem InOrder.slotted_run (order : s.1.InOrder) (h : Slotted (s.1.paging, s.2))
    (sound : ∀ f ∈ (s.1.demand stores command).faults stores (s.1.paging, s.2), ¬ f.Spoiled) :
  Slotted ((command.run stores s).state.1.paging, (command.run stores s).state.2)
  := by
  apply order.followed_run.slotted
  apply Demand.slotted h sound

/-! ### Runs -/

/-- The states of a space with the faults before, the last one first.  Pages are resolved directly
or on a command, and between that others may use the stores: the main store may change at will,
and of the swap store bytes and free frames, if no slot of the space becomes free. -/
inductive Suffers : Space c × ω → List (PageFault c ω) → Prop
  | new {w : ω} (few : (swap w).frameCount ≤ Device.capacity .swap) (pool : (swap w).PoolsFrames) :
    Suffers (new c, w) []
  | others {s : Space c} {w w' : ω} {past : List (PageFault c ω)} (suffers : Suffers (s, w) past)
      (count : (swap w').frameCount = (swap w).frameCount)
      (pool : (swap w).PoolsFrames → (swap w').PoolsFrames)
      (spared : ∀ page slot, (s.paging.entry page).place? = some (.swap, slot) →
        slot ∈ (swap w').free → slot ∈ (swap w).free) :
    Suffers (s, w') past
  | fault {s : Space c × ω} {past : List (PageFault c ω)} (suffers : Suffers s past)
      (stores : Stores) (page : Nat) :
    Suffers (onPaging (resolve stores page) s).state (⟨stores, page, (s.1.paging, s.2)⟩ :: past)
  | command {s : Space c × ω} {past : List (PageFault c ω)} (suffers : Suffers s past)
      (stores : Stores) (command : Command) :
    Suffers (command.run stores s).state
      ((s.1.demand stores command).faults stores (s.1.paging, s.2) ++ past)

theorem Suffers.inOrder (h : Suffers s past) :
  s.1.InOrder
  := by
  induction h with
  | new few pool => apply inOrder_new
  | others suffers count pool spared ih => apply ih
  | fault suffers stores page ih =>
      use ih.heap
      apply ih.capacity
  | command suffers stores command ih => apply ih.run

/-- Slots are in order after every run in which no fault was spoiled. -/
theorem Suffers.slotted (h : Suffers s past) (sound : ∀ f ∈ past, ¬ f.Spoiled) :
  Slotted (s.1.paging, s.2)
  := by
  induction h with
  | new few pool => apply slotted_empty few pool
  | others suffers count pool spared ih =>
      have before := ih sound
      apply before.withPool count (pool before.pool)
      intro page slot held free
      exact before.used page slot held (spared page slot held free)
  | @fault s past suffers stores page ih =>
      obtain ⟨last, sound⟩ := List.forall_mem_cons.mp sound
      have ends : Resolution stores page (s.1.paging, s.2) _ _ := resolve_ends
      apply (ends.kept (ih sound) last).1
  | command suffers stores command ih =>
      obtain ⟨last, sound⟩ := List.forall_mem_append.mp sound
      apply suffers.inOrder.slotted_run (ih sound) last

/-- All faults of a run were harmless exactly if none of them was spoiled: the first fault that is
spoiled finds the slots in order, so it is not harmless, and what later ones do does not matter. -/
theorem Suffers.harmless_iff_sound (h : Suffers s past) :
  (∀ f ∈ past, f.Harmless) ↔ ∀ f ∈ past, ¬ f.Spoiled
  := by
  induction h with
  | new few pool => simp only [List.not_mem_nil, false_implies, implies_true]
  | others suffers count pool spared ih => apply ih
  | fault suffers stores page ih => apply PageFault.harmless_cons_iff suffers.slotted ih
  | @command s past suffers stores command ih =>
      rcases s.1.demand stores command with - | number | ⟨start, stop⟩ | -
      · apply ih
      · apply PageFault.harmless_cons_iff suffers.slotted ih
      · apply ih
      · apply ih

/-! ### A frame that no entry can hold -/

/-- One frame of the main store, and three slots. -/
def oneFrame : FaultyMain := ⟨⟨.zeroed 4 2, {}⟩, .zeroed 8 2⟩

/-- A page is resolved. -/
def mappedZero : Space Config.small × FaultyMain :=
  (onPaging (resolve {} 0) (new Config.small, oneFrame)).state

/-- Another page gets its frame. -/
def exchanged : Space Config.small × FaultyMain := (onPaging (resolve {} 1) mappedZero).state

/-- The frame can no longer be written. -/
def jammed : Space Config.small × FaultyMain :=
  (exchanged.1, { exchanged.2 with ram.faults.badWrites := [2] })

/-- The first page is wanted, but cannot be copied to the frame, from which the second one was
evicted. -/
def stuck : Space Config.small × FaultyMain := (onPaging (resolve {} 0) jammed).state

/-- The main store is about to hand out its reserved frame. -/
def reserved : Space Config.small × FaultyMain :=
  (stuck.1, { stuck.2 with ram.faults := { pool := [0] } })

/-- The faults up to the one whose frame cannot be written. -/
def faultsJammed : List (PageFault Config.small FaultyMain) :=
  [.of jammed 0, .of mappedZero 1, .of (new Config.small, oneFrame) 0]

/-- A fault fails whose frame cannot be written, and one fails whose frame no entry can hold.  The
first one is harmless and the second one is not. -/
theorem harmless_until_reserved :
  Suffers (onPaging (resolve {} 0) reserved).state (.of reserved 0 :: faultsJammed) ∧
  (resolve {} 0 (jammed.1.paging, jammed.2)).answer = .error (.store (.outOfRange 2)) ∧
  (∀ f ∈ faultsJammed, f.Harmless) ∧
  (resolve {} 0 (reserved.1.paging, reserved.2)).answer = .error .mappingFailed ∧
  ¬ (PageFault.of reserved 0).Harmless
  := by
  have start : Suffers (new Config.small, oneFrame) [] := by
    apply Suffers.new
    · decide
    · apply Memory.poolsFrames_zeroed
  have before : Suffers exchanged faultsJammed.tail := (start.fault {} 0).fault {} 1
  have unwritable : Suffers jammed faultsJammed.tail := before.others rfl id fun _ _ _ => id
  have after : Suffers stuck faultsJammed := unwritable.fault {} 0
  have offered : Suffers reserved faultsJammed := after.others rfl id fun _ _ _ => id
  have last := offered.fault {} 0
  have sound : ∀ f ∈ faultsJammed, ¬ f.Spoiled := by
    have exhausted : (Backing.acquireFrame .ram jammed.2).1 = .error .exhausted := by
      decide +kernel
    have one_unmapped : (mappedZero.1.paging.entry 1).place? = none := by decide +kernel
    have zero_unmapped : ((new Config.small).paging.entry 0).place? = none := by decide +kernel
    rw [faultsJammed, List.forall_mem_cons, List.forall_mem_cons, List.forall_mem_singleton]
    constructor
    · rintro ⟨-, -, slot, -, -, -, frame, w, w', acquired, -⟩
      cases exhausted.symm.trans (congrArg Prod.fst acquired)
    constructor
    · rintro ⟨-, -, slot, held, -⟩
      cases one_unmapped.symm.trans held
    · rintro ⟨-, -, slot, held, -⟩
      cases zero_unmapped.symm.trans held
  have spoiled : (PageFault.of reserved 0).Spoiled := by
    have swapped : (reserved.1.paging.entry 0).place? = some (.swap, 1) := by decide +kernel
    have acquired : (Backing.acquireFrame .ram reserved.2).1 = .ok 0 := by decide +kernel
    have copied : (copyPage 2 .swap 1 .ram 0 (Backing.acquireFrame .ram reserved.2).2).1 = .ok ()
      := by decide +kernel
    exact ⟨rfl, by decide, 1, swapped, rfl, rfl, 0, _, _, Prod.ext acquired rfl, rfl,
      Prod.ext copied rfl⟩
  have harmless := after.harmless_iff_sound.mpr sound
  use last
  constructor
  · decide +kernel
  use harmless
  constructor
  · decide +kernel
  · intro kept
    have all := last.harmless_iff_sound.mp (List.forall_mem_cons.mpr ⟨kept, harmless⟩)
    apply all _ List.mem_cons_self spoiled

end Space

end VirtualMemory
