import VirtualMemory.Proofs.Space.Access
import VirtualMemory.Proofs.Space.Failures

/-!
# What commands demand of the pages

A command demands at most one thing of the pages: an access demands the page of its address, a
growth demands pages for the new part of an area, and the release of all pages demands that
there are none.  `Space.demand` says which one it is, from the areas and the handles alone.
After the command the pages and the stores are as after its demand, except that a byte of the main
store may be read or written, with the dirty flag left on a page, or a frame copied to a slot.
-/

namespace VirtualMemory

/-- What is demanded of the pages of an address space. -/
inductive Demand
  /-- Nothing. -/
  | nothing
  /-- A page in a frame. -/
  | page (page : Nat)
  /-- The pages that a range of addresses touches. -/
  | range (start stop : Nat)
  /-- No pages. -/
  | release
deriving DecidableEq

variable {c : Config} {ω : Type}

/-- Meets a demand. -/
def Demand.run [Backing ω] (stores : Stores) : Demand → Op (Paging c × ω) Unit
  | nothing => pure ()
  | page number => (fun _ => ()) <$> Paging.resolve stores number
  | range start stop => Paging.mapAddresses stores start stop
  | release => (fun _ => ()) <$> Paging.releaseAll stores

/-- The pages are the same, but one that is resident may have become dirty. -/
inductive Paging.Marked (p : Paging c) : Paging c → Prop
  | same : Marked p p
  | dirty {page : Nat} (below : page < c.maxPages)
      (resident : (p.entry page).isResident = true) :
    Marked p (p.setEntry page (p.entry page).withDirty)

theorem Paging.Marked.residency_eq {p p' : Paging c} (marked : p.Marked p') :
  p'.residency = p.residency
  := by
  cases marked with
  | same => rfl
  | dirty below resident => rfl

theorem Paging.marked_afterWrite {p : Paging c} {page : Nat} (below : page < c.maxPages) :
  p.Marked (p.afterWrite page)
  := by
  rw [afterWrite]
  split
  · next resident => apply Marked.dirty below resident
  · apply Marked.same

/-- What a command does after its demand is met: at most one access to the stores, and after a
write that succeeds, at the virtual address that comes with it, the page becomes dirty. -/
inductive Paging.Followed [Backing ω] (t : Paging c × ω) : Option Nat → Paging c × ω → Prop
  | same : Followed t none t
  | read (address : Nat) : Followed t none (t.1, (Backing.readByte .ram address t.2).2)
  | unwritten (address : Nat) (value : UInt8) :
    Followed t none (t.1, (Backing.writeByte .ram address value t.2).2)
  | written {target : Nat} (address : Nat) (value : UInt8) (below : c.pageOf target < c.maxPages) :
    Followed t (some target)
      (t.1.afterWrite (c.pageOf target), (Backing.writeByte .ram address value t.2).2)
  | copied (frame slot : Nat) :
    Followed t none (t.1, (copyPage c.pageSize .ram frame .swap slot t.2).2)

theorem Paging.Followed.marked [Backing ω] {t t' : Paging c × ω} {written : Option Nat}
    (followed : Followed t written t') :
  t.1.Marked t'.1
  := by
  cases followed with
  | same => apply Marked.same
  | read address => apply Marked.same
  | unwritten address value => apply Marked.same
  | written address value below => apply marked_afterWrite below
  | copied frame slot => apply Marked.same

/-- The virtual address at which a command writes a byte, if it succeeds. -/
def Command.writes? (t : HandleTable) (command : Command) : Option Nat :=
  if command.value?.isSome then command.target? t else none

/-- The virtual address at which a command writes a byte, if it does. -/
def Command.written? [Backing ω] (stores : Stores) (command : Command) (s : Space c × ω) :
    Option Nat :=
  match (command.run stores s).answer with
  | .ok _ => command.writes? s.1.handles
  | .error _ => none

instance (l : AreaList) (id : Nat) (range : Region) : Decidable (l.Blocked id range) :=
  inferInstanceAs (Decidable (_ ∨ _))

namespace Space

open AreaList Command

/-! ### Demands -/

/-- The access to an address demands its page, unless it is refused without a look at the pages. -/
def accessDemand (s : Space c) (stores : Stores) (address : Nat) : Demand :=
  if stores.ram = true ∧ (c.mode = .paged → (s.areas.covering? address).isSome = true) then
    .page (c.pageOf address)
  else .nothing

/-- The growth of an area demands pages for the new part, unless it is refused without a look at
the pages. -/
def growthDemand (s : Space c) (id increment : Nat) : Demand :=
  match s.areas.lookup? id with
  | none => .nothing
  | some a =>
    match Word.add? a.stop (c.alignUp increment) with
    | none => .nothing
    | some stop =>
      if increment = 0 ∨ s.areas.Blocked id ⟨a.stop, stop⟩ then .nothing
      else .range a.stop stop

/-- An allocation demands pages if no free region of the heap has enough bytes. -/
def allocationDemand (s : Space c) (handle size : Nat) : Demand :=
  match s.areas.lookup? heapId with
  | none => .nothing
  | some heap =>
    if size = 0 ∨ c.handleCapacity ≤ handle ∨ (heap.firstFit? size).isSome = true then .nothing
    else s.growthDemand heapId (heapIncrement c size)

/-- The access to a byte of a region demands its page, if the handle has one. -/
def regionDemand (s : Space c) (stores : Stores) (handle offset : Nat) : Demand :=
  match s.handles.get handle with
  | .error _ => .nothing
  | .ok r =>
    if r.length ≤ offset then .nothing else s.accessDemand stores (r.start + offset)

/-- What a command demands. -/
def demand (s : Space c) (stores : Stores) : Command → Demand
  | .allocate handle size => s.allocationDemand handle size
  | .read handle offset => s.regionDemand stores handle offset
  | .write handle offset _ => s.regionDemand stores handle offset
  | .serve (.load address) => s.accessDemand stores address
  | .serve (.store address _) => s.accessDemand stores address
  | .serve (.growArea id size) => s.growthDemand id size
  | .release => .release
  | .free _ | .addArea .. | .serve (.copyToSwap ..) => .nothing

section Values

variable {s : Space c} {stores : Stores} {heap a : Area} {others : List Area}
variable {id handle size stop address : Nat}

theorem accessDemand_of_refused
    (refused : stores.ram = false ∨
      c.mode = .paged ∧ (s.areas.covering? address).isSome = false) :
  s.accessDemand stores address = .nothing
  := by
  rw [accessDemand, if_neg]
  rintro ⟨brought, covered⟩
  rcases refused with missing | ⟨mode, outside⟩
  · rw [missing] at brought
    cases brought
  · rw [covered mode] at outside
    cases outside

theorem accessDemand_of_admitted (brought : stores.ram = true)
    (admitted : ¬ (c.mode = .paged ∧ (s.areas.covering? address).isSome = false)) :
  s.accessDemand stores address = .page (c.pageOf address)
  := by
  rw [accessDemand, if_pos]
  use brought
  intro mode
  apply Bool.eq_true_of_not_eq_false
  intro outside
  apply admitted ⟨mode, outside⟩

/-- Nothing is demanded for a growth by nothing. -/
theorem growthDemand_zero :
  s.growthDemand id 0 = .nothing
  := by
  unfold growthDemand
  split
  · rfl
  · split
    · rfl
    · simp

theorem growthDemand_of_mapped (nonzero : size ≠ 0) (found : s.areas.lookup? id = some a)
    (sum : Word.add? a.stop (c.alignUp size) = some stop)
    (vacant : ¬ s.areas.Blocked id ⟨a.stop, stop⟩) :
  s.growthDemand id size = .range a.stop stop
  := by
  simp only [growthDemand, found, sum, nonzero, vacant, or_self, if_false]

theorem allocationDemand_of_full (has : s.areas.HasHeap heap others) (nonzero : size ≠ 0)
    (below : handle < c.handleCapacity) (full : heap.firstFit? size = none) :
  s.allocationDemand handle size = s.growthDemand heapId (heapIncrement c size)
  := by
  have beyond : ¬ c.handleCapacity ≤ handle := Nat.not_le_of_lt below
  simp [allocationDemand, has.lookup?, full, nonzero, beyond]

end Values

variable [Backing ω] {stores : Stores} {s s' : Space c × ω} {heap : Area} {others : List Area}
variable {id handle size offset address : Nat} {value : UInt8} {command : Command}

/-- The pages and the stores after a demand is met. -/
def met (s : Space c × ω) (stores : Stores) (demand : Demand) : Paging c × ω :=
  (demand.run stores (s.1.paging, s.2)).state

/-! ### Accesses -/

/-- A translation leaves behind what its demand does. -/
theorem ends_translate_met {Q : Nat → Space c × ω → Prop} {R : Error → Space c × ω → Prop}
    {t : Paging c × ω} (done : t = met s stores (s.1.accessDemand stores address))
    (found : ∀ physical, c.pageOf address < c.maxPages →
      Q physical (⟨s.1.areas, s.1.handles, t.1⟩, t.2))
    (refused : ∀ e, R e (⟨s.1.areas, s.1.handles, t.1⟩, t.2)) :
  (translate stores address).Ends s Q R
  := by
  rw [ends_translate_iff]
  split
  · next missing =>
      rw [accessDemand_of_refused (Or.inl missing)] at done
      subst done
      apply refused
  · next brought =>
      split
      · next outside =>
          rw [accessDemand_of_refused (Or.inr outside)] at done
          subst done
          apply refused
      · next admitted =>
          rw [accessDemand_of_admitted (Bool.eq_true_of_not_eq_false brought) admitted, met,
            Demand.run, Op.state_map] at done
          subst done
          have ends : Paging.Resolution stores (c.pageOf address) (s.1.paging, s.2) _ _
            := Paging.resolve_ends
          rw [Op.Ends]
          split
          · next frame ok =>
              rw [ok] at ends
              apply found _ ends.below
          · apply refused

theorem followed_load :
  Paging.Followed (met s stores (s.1.accessDemand stores address)) none
    ((load stores address s).state.1.paging, (load stores address s).state.2)
  := by
  apply Op.ends_iff_state (P := fun s' : Space c × ω =>
    Paging.Followed _ none (s'.1.paging, s'.2)).mp
  simp only [load, Op.ends_bind, Op.ends_emit]
  apply ends_translate_met rfl
  · intro physical below
    apply Op.ends_iff_state (P := fun s' : Space c × ω =>
      Paging.Followed _ none (s'.1.paging, s'.2)).mpr
    rw [Op.access, Op.onSecond, Op.run_ofAccess]
    apply Paging.Followed.read
  · intro e
    apply Paging.Followed.same

theorem followed_store :
  (store stores address value).Ends s
    (fun _ s' => Paging.Followed (met s stores (s.1.accessDemand stores address)) (some address)
      (s'.1.paging, s'.2))
    (fun _ s' => Paging.Followed (met s stores (s.1.accessDemand stores address)) none
      (s'.1.paging, s'.2))
  := by
  simp only [store, Op.ends_bind, Op.ends_emit]
  apply ends_translate_met rfl
  · intro physical below
    rw [Op.ends_access]
    split
    · next u w' written =>
        obtain rfl : (Backing.writeByte .ram physical value _).2 = w' := congrArg Prod.snd written
        simp only [ends_onPaging, Paging.ends_markDirty, Paging.state_markDirty]
        apply Paging.Followed.written _ _ below
    · next e w' refused =>
        obtain rfl : (Backing.writeByte .ram physical value _).2 = w' := congrArg Prod.snd refused
        apply Paging.Followed.unwritten
  · intro e
    apply Paging.Followed.same

/-- The copy of a frame to a slot demands nothing of the pages. -/
theorem followed_copyToSwap {frame slot : Nat} :
  Paging.Followed (s.1.paging, s.2) none
    ((copyToSwap stores frame slot s).state.1.paging, (copyToSwap stores frame slot s).state.2)
  := by
  apply Op.ends_iff_state (P := fun s' : Space c × ω =>
    Paging.Followed _ none (s'.1.paging, s'.2)).mp
  simp only [copyToSwap, Op.ends_bind, Op.ends_emit, Op.ends_require]
  have copied : (Op.access (copyPage c.pageSize .ram frame .swap slot) :
      Op (Space c × ω) Unit).Ends s
        (fun _ s' => Paging.Followed (s.1.paging, s.2) none (s'.1.paging, s'.2))
        (fun _ s' => Paging.Followed (s.1.paging, s.2) none (s'.1.paging, s'.2))
    := by
    apply Op.ends_iff_state (P := fun s' : Space c × ω =>
      Paging.Followed _ none (s'.1.paging, s'.2)).mpr
    rw [Op.access, Op.onSecond, Op.run_ofAccess]
    exact Paging.Followed.copied (t := (s.1.paging, s.2)) frame slot
  constructor
  · intro _
    constructor
    · intro _
      apply copied
    · intro _
      exact .same
  · intro _
    exact .same

/-- An access to a byte of a region is one to an address, or changes nothing. -/
theorem followed_region {α : Type} {x : Nat → Op (Space c × ω) α} {written : Option Nat}
    (followed : ∀ r, s.1.handles.get handle = .ok r →
      (x (r.start + offset)).Ends s
        (fun _ s' => Paging.Followed (met s stores (s.1.accessDemand stores (r.start + offset)))
          written (s'.1.paging, s'.2))
        (fun _ s' => Paging.Followed (met s stores (s.1.accessDemand stores (r.start + offset)))
          none (s'.1.paging, s'.2))) :
  (locate handle offset >>= x).Ends s
    (fun _ s' => Paging.Followed (met s stores (s.1.regionDemand stores handle offset)) written
      (s'.1.paging, s'.2))
    (fun _ s' => Paging.Followed (met s stores (s.1.regionDemand stores handle offset)) none
      (s'.1.paging, s'.2))
  := by
  rw [Op.ends_bind, ends_locate, regionDemand]
  rcases found : s.1.handles.get handle with e | r
  · apply Paging.Followed.same
  · dsimp only
    split
    · apply Paging.Followed.same
    · apply followed r found

/-! ### Growth -/

/-- A growth demands nothing and leaves everything as it is, or it demands pages for the new part,
which the area gets if they are mapped. -/
theorem growth_cases {answer : Except Error Region} {after : AreaList × Paging c × ω}
    (nonzero : size ≠ 0)
    (growth : Growth c id size (Paging.mapAddresses stores) (s.1.areas, s.1.paging, s.2) answer
      after) :
  (s.1.growthDemand id size = .nothing ∧ after = (s.1.areas, s.1.paging, s.2)) ∨
  ∃ a stop, s.1.areas.lookup? id = some a ∧ s.1.growthDemand id size = .range a.stop stop ∧
    after.2 = met s stores (.range a.stop stop) ∧
    ((Paging.mapAddresses stores a.stop stop (s.1.paging, s.2)).answer = .ok () →
      after.1 = s.1.areas.modify id (·.extendTo stop))
  := by
  cases growth with
  | nothing zero => exact absurd zero nonzero
  | noArea absent =>
      left
      simp only [growthDemand, absent, and_self]
  | beyond found sum =>
      left
      simp only [growthDemand, found, sum, and_self]
  | blocked found sum blocked =>
      left
      simp only [growthDemand, found, sum, blocked, or_true, if_true, and_self]
  | unmapped found sum vacant mapped =>
      right
      refine ⟨_, _, found, growthDemand_of_mapped nonzero found sum vacant, rfl, ?_⟩
      intro ok
      exact absurd (ok.symm.trans mapped) (by simp)
  | grown found sum vacant mapped =>
      right
      exact ⟨_, _, found, growthDemand_of_mapped nonzero found sum vacant, rfl, fun _ => rfl⟩

/-- The growth of an area leaves behind what its demand does. -/
theorem growth_met {answer : Except Error Region} {after : AreaList × Paging c × ω}
    (nonzero : size ≠ 0)
    (growth : Growth c id size (Paging.mapAddresses stores) (s.1.areas, s.1.paging, s.2) answer
      after) :
  after.2 = met s stores (s.1.growthDemand id size)
  := by
  rcases growth_cases nonzero growth with ⟨demand, rfl⟩ | ⟨a, stop, -, demand, pages, -⟩
  · rw [demand]
    rfl
  · rw [demand, pages]

theorem growArea_met :
  ((growArea stores id size s).state.1.paging, (growArea stores id size s).state.2) =
    met s stores (s.1.growthDemand id size)
  := by
  by_cases zero : size = 0
  · subst zero
    rw [growthDemand_zero]
    rfl
  · apply Op.ends_iff_state (P := fun s' : Space c × ω =>
      (s'.1.paging, s'.2) = met s stores (s.1.growthDemand id size)).mp
    apply ends_growArea
    · intro r t growth
      rw [← growth_met zero growth]
    · intro e t growth
      rw [← growth_met zero growth]

/-- Bytes of the heap are taken without a look at the pages, or the heap grows. -/
theorem taking_met {answer : Except Error Region} (has : s.1.areas.HasHeap heap others)
    (nonzero : size ≠ 0) (below : handle < c.handleCapacity)
    (taking : Taking stores size heap others s answer s') :
  (s'.1.paging, s'.2) = met s stores (s.1.allocationDemand handle size)
  := by
  cases taking with
  | fit fit =>
      simp only [allocationDemand, has.lookup?, fit, Option.isSome_some, or_true, if_true]
      rfl
  | refused full nonzero' growth =>
      rw [allocationDemand_of_full has nonzero below full,
        ← growth_met nonzero' growth]
  | grown full nonzero' sum vacant mapped =>
      rw [allocationDemand_of_full has nonzero below full,
        growthDemand_of_mapped nonzero' has.lookup? sum vacant]
      rfl
  | ungrown full zero =>
      rw [allocationDemand_of_full has nonzero below full, zero, growthDemand_zero]
      rfl

theorem allocation_met {answer : Except Error Nat} (has : s.1.areas.HasHeap heap others)
    (allocation : Allocation stores handle size heap others s answer s') :
  (s'.1.paging, s'.2) = met s stores (s.1.allocationDemand handle size)
  := by
  cases allocation with
  | nothing zero =>
      simp only [allocationDemand, has.lookup?, zero, true_or, if_true]
      rfl
  | noHandle nonzero beyond =>
      simp only [allocationDemand, has.lookup?, beyond, true_or, or_true, if_true]
      rfl
  | untaken nonzero below taking => apply taking_met has nonzero below taking
  | @fresh s' r nonzero below taking idle =>
      show (s'.1.paging, s'.2) = _
      apply taking_met has nonzero below taking
  | @rebound s' r previous heap' nonzero below taking has' found busy =>
      show (s'.1.paging, s'.2) = _
      apply taking_met has nonzero below taking

/-! ### Commands -/

/-- However a command ends, at most one access follows its demand. -/
theorem InOrder.ends_run_followed (order : s.1.InOrder) :
  (command.run stores).Ends s
    (fun _ s' => Paging.Followed (met s stores (s.1.demand stores command))
      (command.writes? s.1.handles) (s'.1.paging, s'.2))
    (fun _ s' => Paging.Followed (met s stores (s.1.demand stores command)) none
      (s'.1.paging, s'.2))
  := by
  obtain ⟨heap, others, has⟩ := order.heap
  have silent {α : Type} {x : Op (Space c × ω) α} {t : Paging c × ω}
      (followed : Paging.Followed t none ((x s).state.1.paging, (x s).state.2)) :
      x.Ends s (fun _ s' => Paging.Followed t none (s'.1.paging, s'.2))
        (fun _ s' => Paging.Followed t none (s'.1.paging, s'.2))
    := Op.ends_iff_state (P := fun s' : Space c × ω =>
      Paging.Followed t none (s'.1.paging, s'.2)).mpr followed
  cases command with
  | allocate handle size =>
      rw [Command.run, Op.ends_map]
      apply silent
      rw [demand, ← allocation_met has (allocate_ends has order.capacity)]
      apply Paging.Followed.same
  | free handle =>
      rw [Command.run, Op.ends_map]
      apply silent
      have kept : ((free handle s).state.1.paging, (free handle s).state.2) = (s.1.paging, s.2) :=
        (preserves_free (J := fun t => t = (s.1.paging, s.2))).state s rfl
      rw [kept]
      apply Paging.Followed.same
  | read handle offset =>
      rw [Command.run, Op.ends_map]
      apply followed_region
      intro r found
      apply silent followed_load
  | write handle offset value =>
      rw [Command.run, Op.ends_map]
      apply followed_region
      intro r found
      have writes : (Command.write handle offset value).writes? s.1.handles =
          some (r.start + offset)
        := by
        simp only [Command.writes?, Command.value?, Command.target?, found, Option.isSome_some,
          if_true]
      rw [writes]
      simp only [Op.ends_bind, ends_reportAfter, Op.ends_pure]
      apply followed_store
  | serve request =>
      cases request with
      | growArea id size =>
          rw [Command.run, Op.ends_map, serve, bind_pure_comp, Op.ends_map]
          apply silent
          rw [growArea_met]
          apply Paging.Followed.same
      | copyToSwap frame slot =>
          rw [Command.run, Op.ends_map, serve, bind_pure_comp, Op.ends_map]
          apply silent followed_copyToSwap
      | load address =>
          rw [Command.run, Op.ends_map, serve, Op.ends_map]
          apply silent followed_load
      | store address value =>
          rw [Command.run, Op.ends_map, serve, bind_pure_comp, Op.ends_map]
          apply followed_store
  | addArea id start stop =>
      apply silent
      rw [Command.run, Op.state_map]
      apply Paging.Followed.same
  | release =>
      apply silent
      rw [state_run_release, demand, met, Demand.run, Op.state_map]
      apply Paging.Followed.same

/-- After a command the pages and the stores are as after its demand, but for one access. -/
theorem InOrder.followed_run (order : s.1.InOrder) :
  Paging.Followed (met s stores (s.1.demand stores command)) (command.written? stores s)
    ((command.run stores s).state.1.paging, (command.run stores s).state.2)
  := by
  have ends : (command.run stores).Ends s _ _ := order.ends_run_followed
  rw [Op.Ends] at ends
  rw [Command.written?]
  rcases answer : (command.run stores s).answer with e | a
  · rw [answer] at ends
    apply ends
  · rw [answer] at ends
    apply ends

/-- After a command the pages are as after its demand, but one may have become dirty. -/
theorem InOrder.marked_run (order : s.1.InOrder) :
  Paging.Marked (met s stores (s.1.demand stores command)).1
    (command.run stores s).state.1.paging
  := order.followed_run.marked

end Space

end VirtualMemory
