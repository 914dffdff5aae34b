import VirtualMemory.Space.Heap
import VirtualMemory.Proofs.Paging.Agreement

/-!
# Commands

A command is an operation that a caller can ask of an address space, with its arguments.  What
holds of the pages and the stores, and is kept when a page is resolved, a range of addresses is
mapped and a byte is read, is kept by every command that does not write; if it is also kept when
bytes are written and pages are marked, it is kept by every command but the release of all
pages.  So page table and resident pages always agree.  What holds of the areas and the handles is
kept by accesses.
-/

namespace VirtualMemory

/-- An operation on an address space with its arguments. -/
inductive Command
  /-- Bind a handle to bytes of the heap. -/
  | allocate (handle size : Nat)
  /-- Unbind a handle. -/
  | free (handle : Nat)
  /-- Read a byte of the region of a handle. -/
  | read (handle offset : Nat)
  /-- Write a byte of the region of a handle. -/
  | write (handle offset : Nat) (value : UInt8)
  /-- Serve a request. -/
  | serve (request : Request)
  /-- Add an area. -/
  | addArea (id start stop : Nat)
  /-- Unmap every page. -/
  | release
deriving DecidableEq

/-- What a command answers. -/
inductive Answer
  /-- A virtual address. -/
  | address (address : Nat)
  /-- The region that became free. -/
  | region (region : Region)
  /-- The byte that was read. -/
  | byte (value : UInt8)
  /-- The number of pages that were unmapped. -/
  | pages (count : Nat)
  /-- The command is carried out. -/
  | done
deriving DecidableEq

/-- A reply as the answer to a command. -/
def Answer.ofReply : Reply → Answer
  | .done => .done
  | .byte value => .byte value

namespace Command

open Space

variable {c : Config} {ω : Type}

/-- Carries out a command. -/
def run [Backing ω] (stores : Stores) : Command → Op (Space c × ω) Answer
  | allocate handle size => Answer.address <$> Space.allocate stores handle size
  | free handle => Answer.region <$> Space.free handle
  | read handle offset => Answer.byte <$> Space.read stores handle offset
  | write handle offset value => Answer.address <$> Space.write stores handle offset value
  | serve request => Answer.ofReply <$> Space.serve stores request
  | addArea id start stop => (fun _ => Answer.done) <$> Space.addArea id start stop
  | release => Answer.pages <$> Space.releasePages stores

/-- Whether a command can write no byte on request and releases no pages. -/
def IsPassive : Command → Prop
  | write .. | serve (.store ..) | serve (.copyToSwap ..) | release => False
  | _ => True

/-! ### What holds of pages and stores -/

variable {J : Paging c × ω → Prop} {stores : Stores} {α β : Type}

/-- A property of pages and stores as a property of a space and the stores. -/
def OnPages (J : Paging c × ω → Prop) (s : Space c × ω) : Prop := J (s.1.paging, s.2)

/-- An operation on pages leaves areas and handles alone. -/
@[simp]
theorem ends_onPaging {x : Op (Paging c × ω) α} {s : Space c × ω} {Q : α → Space c × ω → Prop}
    {R : Error → Space c × ω → Prop} :
  (onPaging x).Ends s Q R ↔ x.Ends (s.1.paging, s.2)
    (fun a t => Q a (⟨s.1.areas, s.1.handles, t.1⟩, t.2))
    (fun e t => R e (⟨s.1.areas, s.1.handles, t.1⟩, t.2))
  := Iff.rfl

/-- A handle and an offset are located in the region of the handle. -/
theorem ends_locate {s : Space c × ω} {handle offset : Nat}
    {Q : Nat → Space c × ω → Prop} {R : Error → Space c × ω → Prop} :
  (Space.locate handle offset).Ends s Q R ↔ match s.1.handles.get handle with
    | .ok r => if r.length ≤ offset then R (.outOfBounds offset r.length) s
      else Q (r.start + offset) s
    | .error e => R e s
  := by
  simp only [Space.locate, Op.ends_bind, Op.ends_gets, Op.ends_ofExcept]
  cases s.1.handles.get handle with
  | error e => rfl
  | ok r =>
      dsimp only
      split
      · rfl
      · rfl

/-- A report in writing changes nothing. -/
theorem ends_reportAfter {s : Space c × ω} {operation : String}
    {Q : Unit → Space c × ω → Prop} {R : Error → Space c × ω → Prop} :
  (Space.reportAfter operation).Ends s Q R ↔ Q () s
  := by
  rw [Space.reportAfter]
  split
  · rfl
  · rfl

theorem preserves_onAreas {x : Op AreaList α} :
  (onAreas x : Op (Space c × ω) α).Preserves (OnPages J)
  := ⟨fun _ h => h⟩

theorem preserves_setHandles {t : HandleTable} :
  (setHandles t : Op (Space c × ω) Unit).Preserves (OnPages J)
  := ⟨fun _ h => h⟩

theorem preserves_onPaging {x : Op (Paging c × ω) α} (h : x.Preserves J) :
  (onPaging x).Preserves (OnPages J)
  := ⟨fun s hs => h.state (s.1.paging, s.2) hs⟩

theorem preserves_access {x : Access ω α}
    (h : (Op.access x : Op (Paging c × ω) α).Preserves J) :
  (Op.access x : Op (Space c × ω) α).Preserves (OnPages J)
  := ⟨fun s hs => h.state (s.1.paging, s.2) hs⟩

theorem preserves_reportAfter {operation : String} :
  (reportAfter operation : Op (Space c × ω) Unit).Preserves (OnPages J)
  := by
  rw [reportAfter]
  split
  · apply Op.Preserves.bind Op.Preserves.gets
    intro text
    apply Op.Preserves.emit
  · apply Op.Preserves.pure

theorem preserves_enlistFree {r : Region} :
  (enlistFree r : Op (Space c × ω) Unit).Preserves (OnPages J)
  := by
  apply Op.Preserves.bind preserves_onAreas
  intro a
  apply preserves_onAreas

theorem preserves_bindHandle {handle : Nat} {r : Region} :
  (bindHandle handle r : Op (Space c × ω) Unit).Preserves (OnPages J)
  := by
  apply Op.Preserves.bind Op.Preserves.gets
  intro bound
  apply Op.Preserves.bind Op.Preserves.ofExcept
  rintro ⟨previous, handles⟩
  apply Op.Preserves.bind preserves_setHandles
  intro u
  split
  · split
    · apply Op.Preserves.pure
    · apply Op.Preserves.bind Op.Preserves.emit
      intro u
      apply preserves_enlistFree
  · apply Op.Preserves.pure

theorem preserves_free {handle : Nat} :
  (Space.free handle : Op (Space c × ω) Region).Preserves (OnPages J)
  := by
  apply Op.Preserves.bind Op.Preserves.gets
  intro taken
  apply Op.Preserves.bind Op.Preserves.ofExcept
  rintro ⟨r, handles⟩
  apply Op.Preserves.bind preserves_onAreas
  intro heap
  apply Op.Preserves.bind preserves_setHandles
  intro u
  apply Op.Preserves.bind preserves_onAreas
  intro u
  apply Op.Preserves.bind preserves_reportAfter
  intro u
  apply Op.Preserves.pure

theorem preserves_locate {handle offset : Nat} :
  (locate handle offset : Op (Space c × ω) Nat).Preserves (OnPages J)
  := by
  apply Op.Preserves.bind Op.Preserves.gets
  intro found
  apply Op.Preserves.bind Op.Preserves.ofExcept
  intro r
  split
  · apply Op.Preserves.fail
  · apply Op.Preserves.pure

/-! ### What holds of areas and handles -/

/-- A property of areas and handles as a property of a space and the stores. -/
def OnTables (K : AreaList → HandleTable → Prop) (s : Space c × ω) : Prop :=
  K s.1.areas s.1.handles

section Tables

variable {K : AreaList → HandleTable → Prop}

theorem tables_onPaging {x : Op (Paging c × ω) α} :
  (onPaging x).Preserves (OnTables K)
  := ⟨fun _ h => h⟩

theorem tables_access {x : Access ω α} :
  (Op.access x : Op (Space c × ω) α).Preserves (OnTables K)
  := ⟨fun _ h => h⟩

theorem tables_reportAfter {operation : String} :
  (reportAfter operation : Op (Space c × ω) Unit).Preserves (OnTables K)
  := by
  apply Op.preserves_iff.mpr
  intro s h
  rw [ends_reportAfter]
  apply h

theorem tables_locate {handle offset : Nat} :
  (locate handle offset : Op (Space c × ω) Nat).Preserves (OnTables K)
  := by
  apply Op.Preserves.bind Op.Preserves.gets
  intro found
  apply Op.Preserves.bind Op.Preserves.ofExcept
  intro r
  split
  · apply Op.Preserves.fail
  · apply Op.Preserves.pure

end Tables

/-! ### Commands without writing -/

variable [Backing ω]

/-- What is kept by everything that commands do to pages without writing on request. -/
structure Stable (J : Paging c × ω → Prop) (stores : Stores) : Prop where
  resolve : ∀ page, (Paging.resolve stores page).Preserves J
  mapAddresses : ∀ start stop, (Paging.mapAddresses stores start stop).Preserves J
  read : ∀ address,
    (Op.access (Backing.readByte .ram address) : Op (Paging c × ω) UInt8).Preserves J

/-- The frame for an address is the one to which its page is resolved, if the main store is
brought and, in paged mode, an area covers the address. -/
theorem ends_frameAt_iff {s : Space c × ω} {address : Nat} {Q : Nat → Space c × ω → Prop}
    {R : Error → Space c × ω → Prop} :
  (Space.frameAt stores address).Ends s Q R ↔
    if stores.ram = false then R .invalidContext s
    else if c.mode = .paged ∧ (s.1.areas.covering? address).isSome = false then R .mappingFailed s
    else (Paging.resolve stores (c.pageOf address)).Ends (s.1.paging, s.2)
      (fun frame t => Q frame (⟨s.1.areas, s.1.handles, t.1⟩, t.2))
      (fun e t => R e (⟨s.1.areas, s.1.handles, t.1⟩, t.2))
  := by
  simp only [Space.frameAt, Op.ends_bind, Op.ends_require, Op.ends_gets, Stores.has]
  rcases stores.ram with - | -
  · simp
  · simp only [forall_const, Bool.true_eq_false, false_implies, and_true, if_false]
    split
    · rfl
    · rfl

/-- An address is translated by the frame to which its page is resolved, if the main store is
brought and, in paged mode, an area covers the address. -/
theorem ends_translate_iff {s : Space c × ω} {address : Nat} {Q : Nat → Space c × ω → Prop}
    {R : Error → Space c × ω → Prop} :
  (Space.translate stores address).Ends s Q R ↔
    if stores.ram = false then R .invalidContext s
    else if c.mode = .paged ∧ (s.1.areas.covering? address).isSome = false then R .mappingFailed s
    else (Paging.resolve stores (c.pageOf address)).Ends (s.1.paging, s.2)
      (fun frame t => Q (Word.wrap (frame * c.pageSize + c.offsetOf address))
        (⟨s.1.areas, s.1.handles, t.1⟩, t.2))
      (fun e t => R e (⟨s.1.areas, s.1.handles, t.1⟩, t.2))
  := by
  rw [Space.translate, Op.ends_bind, ends_frameAt_iff]
  rfl

/-- An address is translated by the frame to which its page is resolved. -/
theorem ends_translate {s : Space c × ω} {address : Nat} {Q : Nat → Space c × ω → Prop}
    {R : Error → Space c × ω → Prop}
    (refused : ∀ e, R e s)
    (resolved : (Paging.resolve stores (c.pageOf address)).Ends (s.1.paging, s.2)
      (fun frame t => Q (Word.wrap (frame * c.pageSize + c.offsetOf address))
        (⟨s.1.areas, s.1.handles, t.1⟩, t.2))
      (fun e t => R e (⟨s.1.areas, s.1.handles, t.1⟩, t.2))) :
  (Space.translate stores address).Ends s Q R
  := by
  rw [ends_translate_iff]
  split
  · apply refused
  · split
    · apply refused
    · apply resolved

theorem Stable.translate (h : Stable J stores) {address : Nat} {s : Space c × ω}
    (hs : OnPages J s) :
  (Space.translate stores address).Ends s
    (fun _ s' => c.pageOf address < c.maxPages ∧ OnPages J s') (fun _ => OnPages J)
  := by
  apply ends_translate
  · intro e
    apply hs
  · have kept := (h.resolve (c.pageOf address)).state (s.1.paging, s.2) hs
    have ends : Paging.Resolution stores (c.pageOf address) (s.1.paging, s.2) _ _
      := Paging.resolve_ends
    rw [Op.Ends]
    split
    · next frame ok =>
        rw [ok] at ends
        use ends.below
        apply kept
    · apply kept

theorem Stable.load (h : Stable J stores) {address : Nat} :
  (Space.load stores address).Preserves (OnPages J)
  := by
  apply Op.Preserves.bind Op.Preserves.emit
  intro u
  apply Op.Preserves.bind
  · apply Op.preserves_iff.mpr
    intro s hs
    apply (h.translate hs).mono
    · intro physical s' kept
      apply kept.2
    · intro e s' kept
      apply kept
  · intro physical
    apply preserves_access (h.read physical)

/-- An area grows, and its mapper keeps the property. -/
theorem preserves_grow {τ : Type} {K : τ → Prop} {id increment : Nat} {mapper : Mapper τ}
    (h : ∀ start stop, (mapper start stop).Preserves K) :
  (AreaList.grow c id increment mapper).Preserves (fun s => K s.2)
  := by
  have first {α : Type} {x : Op AreaList α} :
      (Op.onFirst x : Op (AreaList × τ) α).Preserves (fun s => K s.2)
    := ⟨fun _ hs => hs⟩
  rw [AreaList.grow]
  split
  · apply Op.Preserves.pure
  · apply Op.Preserves.bind first
    intro a
    dsimp only
    split
    · apply Op.Preserves.fail
    · apply Op.Preserves.bind first
      intro u
      apply Op.Preserves.bind
      · apply Op.Preserves.mapError
        apply Op.Preserves.onFailure
        · constructor
          · intro s hs
            apply (h _ _).state s.2 hs
        · intro e
          apply Op.Preserves.emit
      · intro u
        apply Op.Preserves.bind first
        intro u
        apply Op.Preserves.pure

theorem Stable.growArea (h : Stable J stores) {area size : Nat} :
  (Space.growArea stores area size).Preserves (OnPages J)
  := by
  apply Op.Preserves.bind Op.Preserves.emit
  intro u
  apply Op.Preserves.bind
  · constructor
    · intro s hs
      apply (preserves_grow h.mapAddresses).state (s.1.areas, s.1.paging, s.2) hs
  · intro r
    apply Op.Preserves.pure

theorem Stable.takeRegion (h : Stable J stores) {size : Nat} :
  (Space.takeRegion stores size).Preserves (OnPages J)
  := by
  apply Op.Preserves.bind preserves_onAreas
  intro heap
  split
  · apply Op.Preserves.bind preserves_onAreas
    intro u
    apply Op.Preserves.pure
  · apply Op.Preserves.bind preserves_onAreas
    intro old
    apply Op.Preserves.bind
    · apply Op.Preserves.mapError
      apply Op.Preserves.onFailure h.growArea
      intro e
      apply Op.Preserves.emit
    · intro u
      apply Op.Preserves.bind preserves_onAreas
      intro grown
      apply Op.Preserves.bind preserves_onAreas
      intro u
      apply Op.Preserves.pure

theorem Stable.allocate (h : Stable J stores) {handle size : Nat} :
  (Space.allocate stores handle size).Preserves (OnPages J)
  := by
  rw [Space.allocate]
  split
  · apply Op.Preserves.fail
  · split
    · apply Op.Preserves.fail
    · apply Op.Preserves.bind h.takeRegion
      intro r
      apply Op.Preserves.bind preserves_bindHandle
      intro u
      apply Op.Preserves.bind preserves_reportAfter
      intro u
      apply Op.Preserves.pure

/-- A command that does not write keeps what is kept without writing. -/
theorem Stable.run (h : Stable J stores) {command : Command} (passive : command.IsPassive) :
  (command.run stores).Preserves (OnPages J)
  := by
  cases command with
  | allocate handle size => apply Op.Preserves.map h.allocate
  | free handle => apply Op.Preserves.map preserves_free
  | read handle offset =>
      apply Op.Preserves.map
      apply Op.Preserves.bind preserves_locate
      intro address
      apply h.load
  | write handle offset value => cases passive
  | serve request =>
      apply Op.Preserves.map
      cases request with
      | growArea area size =>
          apply Op.Preserves.bind h.growArea
          intro u
          apply Op.Preserves.pure
      | copyToSwap frame slot => cases passive
      | load address =>
          apply Op.Preserves.map h.load
      | store address value => cases passive
  | addArea id start stop => apply Op.Preserves.map preserves_onAreas
  | release => cases passive

/-- The release of all pages leaves areas and handles alone. -/
theorem state_run_release {s : Space c × ω} :
  (run stores release s).state =
    (⟨s.1.areas, s.1.handles, (Paging.releaseAll stores (s.1.paging, s.2)).state.1⟩,
      (Paging.releaseAll stores (s.1.paging, s.2)).state.2)
  := by
  apply Op.ends_iff_state (P := fun s' => s' = _).mp
  simp only [run, releasePages, Op.ends_map, Op.ends_bind, ends_onPaging, Op.ends_emit,
    Op.ends_pure]
  apply Op.ends_iff_state (P := fun t : Paging c × ω =>
    ((⟨s.1.areas, s.1.handles, t.1⟩, t.2) : Space c × ω) = _).mpr
  rfl

/-- The copy of a frame keeps what is kept when bytes are copied. -/
theorem preserves_copyToSwap {frame slot : Nat}
    (h : (Op.access (copyPage c.pageSize .ram frame .swap slot) :
      Op (Paging c × ω) Unit).Preserves J) :
  (Space.copyToSwap stores frame slot).Preserves (OnPages J)
  := by
  apply Op.Preserves.bind Op.Preserves.emit
  intro u
  apply Op.Preserves.bind Op.Preserves.require
  intro u
  apply Op.Preserves.bind Op.Preserves.require
  intro u
  apply preserves_access h

/-- What is kept by everything that commands do to pages but their release. -/
structure Robust (J : Paging c × ω → Prop) (stores : Stores) : Prop extends Stable J stores where
  write : ∀ address value,
    (Op.access (Backing.writeByte .ram address value) : Op (Paging c × ω) Unit).Preserves J
  copy : ∀ frame slot,
    (Op.access (copyPage c.pageSize .ram frame .swap slot) : Op (Paging c × ω) Unit).Preserves J
  markDirty : ∀ page < c.maxPages, (Paging.markDirty page).Preserves J

theorem Robust.store (h : Robust J stores) {address : Nat} {value : UInt8} :
  (Space.store stores address value).Preserves (OnPages J)
  := by
  apply Op.Preserves.bind Op.Preserves.emit
  intro u
  apply Op.preserves_iff.mpr
  intro s hs
  rw [Op.ends_bind]
  apply (h.translate hs).mono
  · rintro physical s' ⟨below, kept⟩
    have marked : (onPaging (Paging.markDirty (c.pageOf address)) :
        Op (Space c × ω) Unit).Preserves (OnPages J)
      := preserves_onPaging (h.markDirty _ below)
    apply Op.preserves_iff.mp _ s' kept
    apply Op.Preserves.bind (preserves_access (h.write physical value))
    intro u
    apply marked
  · intro e s' kept
    apply kept

/-- Every command but the release of all pages keeps what is kept when bytes are written. -/
theorem Robust.run (h : Robust J stores) {command : Command} (ne : command ≠ .release) :
  (command.run stores).Preserves (OnPages J)
  := by
  cases command with
  | write handle offset value =>
      apply Op.Preserves.map
      apply Op.Preserves.bind preserves_locate
      intro address
      apply Op.Preserves.bind h.store
      intro u
      apply Op.Preserves.bind preserves_reportAfter
      intro u
      apply Op.Preserves.pure
  | serve request =>
      cases request with
      | copyToSwap frame slot =>
          apply Op.Preserves.map
          apply Op.Preserves.bind (preserves_copyToSwap (h.copy frame slot))
          intro u
          apply Op.Preserves.pure
      | store address value =>
          apply Op.Preserves.map
          apply Op.Preserves.bind h.store
          intro u
          apply Op.Preserves.pure
      | growArea area size => exact h.toStable.run trivial
      | load address => exact h.toStable.run trivial
  | release => exact absurd rfl ne
  | allocate handle size => exact h.toStable.run trivial
  | free handle => exact h.toStable.run trivial
  | read handle offset => exact h.toStable.run trivial
  | addArea id start stop => exact h.toStable.run trivial

/-! ### Page table and residency -/

theorem robust_agreement (fits : c.maxPages ≤ pageLimit) :
  Robust (c := c) (ω := ω) (fun t => t.1.Agreement) stores
  := by
  constructor
  · constructor
    · intro page
      constructor
      intro t a
      apply Paging.resolve_ends.agreement fits a
    · intro start stop
      constructor
      intro t a
      apply Paging.mapAddresses_ends.agreement fits a
    · intro address
      constructor
      · intro _ a
        apply a
  · intro address value
    constructor
    · intro _ a
      apply a
  · intro frame slot
    constructor
    · intro _ a
      apply a
  · intro page below
    constructor
    intro t a
    rw [Paging.run_markDirty]
    split
    · next resident => apply a.setDirty (lt_of_lt_of_le below fits) resident
    · apply a

/-- Every command keeps the agreement of page table and resident pages, with any stores. -/
theorem agreement_run (fits : c.maxPages ≤ pageLimit) {command : Command} {s : Space c × ω}
    (a : s.1.paging.Agreement) :
  (command.run stores s).state.1.paging.Agreement
  := by
  by_cases eq : command = .release
  · subst eq
    rw [state_run_release]
    apply Paging.releaseAll_ends.agreement a
  · apply ((robust_agreement fits).run eq).state s a

/-! ### Areas and handles -/

/-- Whether a command only accesses bytes or releases pages. -/
def IsAccess : Command → Prop
  | read .. | write .. | serve (.load ..) | serve (.store ..) | serve (.copyToSwap ..) | release =>
    True
  | _ => False

variable {K : AreaList → HandleTable → Prop}

theorem tables_frameAt {address : Nat} :
  (Space.frameAt stores address : Op (Space c × ω) Nat).Preserves (OnTables K)
  := by
  apply Op.Preserves.bind Op.Preserves.require
  intro u
  apply Op.Preserves.bind Op.Preserves.gets
  intro covered
  split
  · apply Op.Preserves.bind Op.Preserves.emit
    intro u
    apply Op.Preserves.fail
  · apply tables_onPaging

theorem tables_translate {address : Nat} :
  (Space.translate stores address : Op (Space c × ω) Nat).Preserves (OnTables K)
  := by
  apply Op.Preserves.bind tables_frameAt
  intro frame
  apply Op.Preserves.pure

theorem tables_load {address : Nat} :
  (Space.load stores address : Op (Space c × ω) UInt8).Preserves (OnTables K)
  := by
  apply Op.Preserves.bind Op.Preserves.emit
  intro u
  apply Op.Preserves.bind tables_translate
  intro physical
  apply tables_access

theorem tables_store {address : Nat} {value : UInt8} :
  (Space.store stores address value : Op (Space c × ω) Unit).Preserves (OnTables K)
  := by
  apply Op.Preserves.bind Op.Preserves.emit
  intro u
  apply Op.Preserves.bind tables_translate
  intro physical
  apply Op.Preserves.bind tables_access
  intro u
  apply tables_onPaging

/-- Accesses and the release of all pages leave areas and handles alone, with any stores. -/
theorem tables_run {command : Command} (access : command.IsAccess) :
  (command.run stores : Op (Space c × ω) Answer).Preserves (OnTables K)
  := by
  cases command with
  | read handle offset =>
      apply Op.Preserves.map
      apply Op.Preserves.bind tables_locate
      intro address
      apply tables_load
  | write handle offset value =>
      apply Op.Preserves.map
      apply Op.Preserves.bind tables_locate
      intro address
      apply Op.Preserves.bind tables_store
      intro u
      apply Op.Preserves.bind tables_reportAfter
      intro u
      apply Op.Preserves.pure
  | serve request =>
      apply Op.Preserves.map
      cases request with
      | growArea area size => cases access
      | copyToSwap frame slot =>
          apply Op.Preserves.bind
          · apply Op.Preserves.bind Op.Preserves.emit
            intro u
            apply Op.Preserves.bind Op.Preserves.require
            intro u
            apply Op.Preserves.bind Op.Preserves.require
            intro u
            apply tables_access
          · intro u
            apply Op.Preserves.pure
      | load address =>
          apply Op.Preserves.map tables_load
      | store address value =>
          apply Op.Preserves.bind tables_store
          intro u
          apply Op.Preserves.pure
  | release =>
      apply Op.Preserves.map
      apply Op.Preserves.bind tables_onPaging
      intro pages
      apply Op.Preserves.bind Op.Preserves.emit
      intro u
      apply Op.Preserves.pure
  | allocate handle size => cases access
  | free handle => cases access
  | addArea id start stop => cases access

end Command

end VirtualMemory
