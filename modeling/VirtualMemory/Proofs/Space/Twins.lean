import VirtualMemory.Proofs.Heap.Ledger
import VirtualMemory.Proofs.Operation.Matches
import VirtualMemory.Proofs.Space.Covered

/-!
# Spaces with and without translation

A space in paged mode and one without translation are twins if they have the same areas and the
same handles, and the contents of the pages of the first are the bytes of the main memory of the
second, one page after the other.  On reliable stores, with ample memories for the first space,
every operation that accesses no byte, and every access to an address of an area, gives the same
answer in both and leaves twins behind.
-/

namespace VirtualMemory

/-- The same settings without translation of pages. -/
def Config.flat (c : Config) : Config := { c with mode := .identity }

theorem Config.validate_flat {c : Config} (valid : c.validate = .ok ()) :
  c.flat.validate = .ok ()
  := valid

open Paging MemoryBacked Backing Command

variable {c : Config} {ω ω' : Type} [Reliable ω] [Reliable ω'] {stores stores' : Stores}
variable {t t' : Paging c × ω} {w w' : ω'} {page offset : Nat} {value : UInt8}

/-! ### Pages and the bytes that they mirror -/

/-- The contents of the pages, which have ample memories, are the bytes of a main memory. -/
structure Mirrors (t : Paging c × ω) (w : ω') : Prop where
  guarded : Guarded ∅ t
  ample : Ample c (sizes t)
  enough : c.maxPages * c.pageSize ≤ (memory w .ram).size
  byte_eq : ∀ page < c.maxPages, ∀ offset < c.pageSize,
    (memory w).placeByte c.pageSize (.ram, page) offset =
      content t.1.places c.pageSize (memory t.2) page offset

theorem Mirrors.of_keeps (h : Mirrors t w) (g : Guarded ∅ t') (kept : Keeps ∅ t t') :
  Mirrors t' w
  := by
  use g
  · rw [kept.sizes_eq]
    apply h.ample
  · apply h.enough
  · intro page below offset inside
    rw [kept.content page offset inside]
    apply h.byte_eq page below offset inside

theorem Mirrors.of_memory (h : Mirrors t w) (eq : memory w' = memory w) :
  Mirrors t w'
  := by
  use h.guarded, h.ample
  · rw [eq]
    apply h.enough
  · rw [eq]
    apply h.byte_eq

/-- The same byte is written to a page and to the memory. -/
theorem Mirrors.wrote (h : Mirrors t w) (g : Guarded ∅ t') (inside : offset < c.pageSize)
    (wrote : Wrote ∅ page offset value t t')
    (same : Memories.SameBut (fun d a => d = .ram ∧ a = page * c.pageSize + offset)
      (memory w) (memory w'))
    (written : (memory w').byte .ram (page * c.pageSize + offset) = value) :
  Mirrors t' w'
  := by
  have sizes_eq : sizes t' = sizes t := by
    funext device
    apply wrote.size_eq
  use g
  · rw [sizes_eq]
    apply h.ample
  · rw [same.size]
    apply h.enough
  · intro other below k hk
    rw [wrote.content other k hk]
    split
    · next here =>
        obtain ⟨rfl, rfl⟩ := here
        apply written
    · next away =>
        rw [← h.byte_eq other below k hk]
        apply same.byte
        rintro ⟨-, eq⟩
        have here : Memories.Covers c.pageSize (.ram, other) .ram (other * c.pageSize + k)
          := ⟨rfl, Nat.le_add_right _ _, Nat.add_lt_add_left hk _⟩
        have there : Memories.Covers c.pageSize (.ram, page) .ram (page * c.pageSize + offset)
          := ⟨rfl, Nat.le_add_right _ _, Nat.add_lt_add_left inside _⟩
        rw [eq] at here
        obtain rfl : other = page := congrArg Prod.snd (here.eq there)
        apply away ⟨rfl, Nat.add_left_cancel eq⟩

/-- Ranges of addresses are mapped in one exactly if they are in the other. -/
theorem matches_mapAddresses (fits : c.maxPages ≤ pageLimit)
    (all : ∀ device, stores.has device = true) {start stop : Nat} :
  (mapAddresses stores start stop).Matches
    (fun (t : Paging c × ω) (u : Paging c.flat × ω') => Mirrors t u.2)
    (mapAddresses stores' start stop)
  := by
  constructor
  intro t u h
  have ends : RangeMapping stores start stop t _ _ := mapAddresses_ends
  have ends' : RangeMapping stores' start stop u _ _ := mapAddresses_ends
  obtain ⟨g, kept⟩ := ends.keeps fits h.guarded
  obtain ⟨answer', state'⟩ := ends'.of_identity rfl
  constructor
  · rw [ends.answer_eq fits all h.guarded h.ample, answer']
    rfl
  · rw [state']
    apply h.of_keeps g kept

/-! ### Areas and handles -/

/-- The spaces have the same areas and handles, and the pages of one mirror the main memory of
the other. -/
structure Twins (s : Space c × ω) (s' : Space c.flat × ω') : Prop where
  areas : s.1.areas = s'.1.areas
  handles : s.1.handles = s'.1.handles
  mirrors : Mirrors (s.1.paging, s.2) s'.2

variable {α : Type}

/-- Operations on areas match. -/
theorem matches_onAreas {x : Op AreaList α} :
  (Space.onAreas x : Op (Space c × ω) α).Matches Twins
    (Space.onAreas x : Op (Space c.flat × ω') α)
  := by
  constructor
  intro s s' h
  constructor
  · show (x s.1.areas).answer = (x s'.1.areas).answer
    rw [h.areas]
  · constructor
    · show (x s.1.areas).state = (x s'.1.areas).state
      rw [h.areas]
    · apply h.handles
    · apply h.mirrors

theorem matches_setHandles {table : HandleTable} :
  (Space.setHandles table : Op (Space c × ω) Unit).Matches Twins
    (Space.setHandles table : Op (Space c.flat × ω') Unit)
  := ⟨fun _ _ h => ⟨rfl, ⟨h.areas, rfl, h.mirrors⟩⟩⟩

theorem matches_reportAfter (operation : String) :
  (Space.reportAfter operation : Op (Space c × ω) Unit).Matches Twins
    (Space.reportAfter operation : Op (Space c.flat × ω') Unit)
  := by
  constructor
  intro s s' h
  have same : (Space.reportAfter operation).Ends s (fun _ t => t = s) (fun _ _ => False)
    := ends_reportAfter.mpr rfl
  have same' : (Space.reportAfter operation).Ends s' (fun _ t => t = s') (fun _ _ => False)
    := ends_reportAfter.mpr rfl
  obtain ⟨u, ok, state⟩ := same.exists_ok
  obtain ⟨u', ok', state'⟩ := same'.exists_ok
  constructor
  · rw [ok, ok']
  · rw [state, state']
    apply h

theorem matches_enlistFree {r : Region} :
  (Space.enlistFree r : Op (Space c × ω) Unit).Matches Twins
    (Space.enlistFree r : Op (Space c.flat × ω') Unit)
  := by
  apply Op.Matches.bind matches_onAreas
  intro heap
  apply matches_onAreas

theorem matches_bindHandle {handle : Nat} {r : Region} :
  (Space.bindHandle handle r : Op (Space c × ω) Unit).Matches Twins
    (Space.bindHandle handle r : Op (Space c.flat × ω') Unit)
  := by
  apply Op.Matches.bind
  · apply Op.Matches.gets
    intro s s' h
    rw [h.handles]
  intro bound
  apply Op.Matches.bind Op.Matches.ofExcept
  rintro ⟨previous, handles⟩
  apply Op.Matches.bind matches_setHandles
  intro u
  cases previous with
  | none => apply Op.Matches.pure
  | some previous =>
      dsimp only
      split
      · apply Op.Matches.pure
      · apply Op.Matches.bind Op.Matches.emit
        intro u
        apply matches_enlistFree

theorem matches_free {handle : Nat} :
  (Space.free handle : Op (Space c × ω) Region).Matches Twins
    (Space.free handle : Op (Space c.flat × ω') Region)
  := by
  apply Op.Matches.bind
  · apply Op.Matches.gets
    intro s s' h
    rw [h.handles]
  intro taken
  apply Op.Matches.bind Op.Matches.ofExcept
  rintro ⟨r, handles⟩
  apply Op.Matches.bind matches_onAreas
  intro heap
  apply Op.Matches.bind matches_setHandles
  intro u
  apply Op.Matches.bind matches_onAreas
  intro u
  apply Op.Matches.bind (matches_reportAfter "free")
  intro u
  apply Op.Matches.pure

theorem matches_locate {handle offset : Nat} :
  (Space.locate handle offset : Op (Space c × ω) Nat).Matches Twins
    (Space.locate handle offset : Op (Space c.flat × ω') Nat)
  := by
  apply Op.Matches.bind
  · apply Op.Matches.gets
    intro s s' h
    rw [h.handles]
  intro found
  apply Op.Matches.bind Op.Matches.ofExcept
  intro r
  split
  · apply Op.Matches.fail
  · apply Op.Matches.pure

/-! ### Growth -/

/-- An area grows in both lists if the mappers match. -/
theorem matches_grow {τ υ : Type} {K : τ → υ → Prop} (id increment : Nat) {mapper : Mapper τ}
    {mapper' : Mapper υ} (h : ∀ start stop, (mapper start stop).Matches K (mapper' start stop)) :
  (AreaList.grow c id increment mapper).Matches (fun s s' => s.1 = s'.1 ∧ K s.2 s'.2)
    (AreaList.grow c.flat id increment mapper')
  := by
  have first {β : Type} {x : Op AreaList β} :
      (Op.onFirst x : Op (AreaList × τ) β).Matches (fun s s' => s.1 = s'.1 ∧ K s.2 s'.2)
        (Op.onFirst x : Op (AreaList × υ) β)
    := by
    constructor
    rintro ⟨areas, t⟩ ⟨areas', u⟩ ⟨rfl, hK⟩
    use rfl, rfl
    apply hK
  rw [AreaList.grow, AreaList.grow]
  split
  · apply Op.Matches.pure
  · apply Op.Matches.bind first
    intro a
    rw [show c.flat.alignUp increment = c.alignUp increment from rfl]
    dsimp only
    split
    · apply Op.Matches.fail
    · apply Op.Matches.bind first
      intro u
      apply Op.Matches.bind
      · apply Op.Matches.mapError
        apply Op.Matches.onFailure
        · constructor
          rintro ⟨areas, t⟩ ⟨areas', u⟩ ⟨rfl, hK⟩
          obtain ⟨answer, state⟩ := (h _ _).run t u hK
          use answer, rfl
          apply state
        · intro e
          apply Op.Matches.emit
      · intro u
        apply Op.Matches.bind first
        intro u
        apply Op.Matches.pure

section Growth

variable (fits : c.maxPages ≤ pageLimit) (all : ∀ device, stores.has device = true)
include fits all

theorem matches_growArea {id size : Nat} :
  (Space.growArea stores id size : Op (Space c × ω) Unit).Matches Twins
    (Space.growArea stores' id size : Op (Space c.flat × ω') Unit)
  := by
  apply Op.Matches.bind Op.Matches.emit
  intro u
  apply Op.Matches.bind
  · constructor
    intro s s' h
    have mapping (start stop : Nat) :
        (mapAddresses stores start stop : Op (Paging c × ω) Unit).Matches
          (fun t u => Mirrors t u.2)
          (mapAddresses stores' start stop : Op (Paging c.flat × ω') Unit)
      := matches_mapAddresses fits all
    obtain ⟨answer, areas, mirrors⟩ := (matches_grow id size mapping).run
      (s.1.areas, s.1.paging, s.2) (s'.1.areas, s'.1.paging, s'.2) ⟨h.areas, h.mirrors⟩
    use answer, areas, h.handles
    apply mirrors
  · intro r
    apply Op.Matches.pure

theorem matches_takeRegion {size : Nat} :
  (Space.takeRegion stores size : Op (Space c × ω) Region).Matches Twins
    (Space.takeRegion stores' size : Op (Space c.flat × ω') Region)
  := by
  apply Op.Matches.bind matches_onAreas
  intro heap
  split
  · apply Op.Matches.bind matches_onAreas
    intro u
    apply Op.Matches.pure
  · apply Op.Matches.bind matches_onAreas
    intro old
    apply Op.Matches.bind
    · apply Op.Matches.mapError
      apply Op.Matches.onFailure (matches_growArea fits all)
      intro e
      apply Op.Matches.emit
    · intro u
      apply Op.Matches.bind matches_onAreas
      intro grown
      apply Op.Matches.bind matches_onAreas
      intro u
      apply Op.Matches.pure

theorem matches_allocate {handle size : Nat} :
  (Space.allocate stores handle size : Op (Space c × ω) Nat).Matches Twins
    (Space.allocate stores' handle size : Op (Space c.flat × ω') Nat)
  := by
  rw [Space.allocate, Space.allocate]
  split
  · apply Op.Matches.fail
  · rw [show c.flat.handleCapacity = c.handleCapacity from rfl]
    split
    · apply Op.Matches.fail
    · apply Op.Matches.bind (matches_takeRegion fits all)
      intro r
      apply Op.Matches.bind matches_bindHandle
      intro u
      apply Op.Matches.bind (matches_reportAfter "alloc")
      intro u
      apply Op.Matches.pure

end Growth

/-! ### Accesses -/

/-- Whether a command leaves the swap store and the set of pages alone and accesses an address of
an area, if it names an address. -/
def Command.Within (areas : AreaList) : Command → Prop
  | serve (.load address) | serve (.store address _) => (areas.covering? address).isSome = true
  | serve (.copyToSwap ..) | release => False
  | _ => True

instance (areas : AreaList) : (command : Command) → Decidable (command.Within areas)
  | .serve (.load address) | .serve (.store address _) =>
    inferInstanceAs (Decidable ((areas.covering? address).isSome = true))
  | .serve (.copyToSwap ..) | .release => inferInstanceAs (Decidable False)
  | .allocate .. | .free .. | .read .. | .write .. | .serve (.growArea ..) | .addArea .. =>
    inferInstanceAs (Decidable True)

namespace Twins

variable {s : Space c × ω} {s' : Space c.flat × ω'} {address handle total : Nat} {heap : Area}
variable {others : List Area}

/-- Operations that leave areas and handles alone leave twins behind if the pages still mirror the
memory. -/
theorem of_mirrors (h : Twins s s') {x : Op (Space c × ω) α} {y : Op (Space c.flat × ω') α}
    (tables : ∀ K, x.Preserves (OnTables K)) (tables' : ∀ K, y.Preserves (OnTables K))
    (mirrors : Mirrors ((x s).state.1.paging, (x s).state.2) (y s').state.2) :
  Twins (x s).state (y s').state
  := by
  have kept := tables fun areas handles => areas = s.1.areas ∧ handles = s.1.handles
  have kept' := tables' fun areas handles => areas = s'.1.areas ∧ handles = s'.1.handles
  obtain ⟨areas, handles⟩ := kept.state s ⟨rfl, rfl⟩
  obtain ⟨areas', handles'⟩ := kept'.state s' ⟨rfl, rfl⟩
  constructor
  · rw [areas, areas', h.areas]
  · rw [handles, handles', h.handles]
  · apply mirrors

section Accesses

variable (valid : c.validate = .ok ()) (bounded : c.maxPages * c.pageSize ≤ 2 ^ 63)
variable (fits : c.maxPages ≤ pageLimit) (mode : c.mode = .paged)
variable (all : ∀ device, stores.has device = true) (brought : stores'.ram = true)
include valid bounded fits mode all brought

/-- The same byte is read, or the page is refused in both. -/
theorem load (h : Twins s s') (covered : (s.1.areas.covering? address).isSome = true) :
  (Space.load stores address).MatchesAt Twins (Space.load stores' address) s s'
  := by
  have covered' := covered
  rw [h.areas] at covered'
  obtain ⟨guarded, ample, enough, byte_eq⟩ := h.mirrors
  rcases Nat.lt_or_ge (c.pageOf address) c.maxPages with below | beyond
  · obtain ⟨value, ok, eq, g, kept⟩ :=
      (ends_load_of_ample covered valid fits mode all guarded ample below).exists_ok
    obtain ⟨value', ok', eq', memory_eq⟩ :=
      (ends_load_of_identity brought covered' (Config.validate_flat valid) bounded rfl
        below enough).exists_ok
    constructor
    · rw [ok, ok', eq, eq', ← byte_eq _ below _ (Config.offsetOf_lt valid)]
      rfl
    · apply h.of_mirrors (fun K => tables_load) (fun K => tables_load)
      apply (h.mirrors.of_keeps g kept).of_memory memory_eq
  · obtain ⟨e, error, eq, state⟩ := (ends_load_of_beyond (all .ram) covered beyond).exists_error
    obtain ⟨e', error', eq', state'⟩ := (ends_load_of_beyond brought covered' beyond).exists_error
    constructor
    · rw [error, error', eq, eq']
      rfl
    · rw [state, state']
      apply h

/-- The same byte is written, or the page is refused in both. -/
theorem store (h : Twins s s') (covered : (s.1.areas.covering? address).isSome = true) :
  (Space.store stores address value).MatchesAt Twins (Space.store stores' address value) s s'
  := by
  have covered' := covered
  rw [h.areas] at covered'
  obtain ⟨guarded, ample, enough, byte_eq⟩ := h.mirrors
  rcases Nat.lt_or_ge (c.pageOf address) c.maxPages with below | beyond
  · obtain ⟨u, ok, g, wrote⟩ :=
      (ends_store_of_ample covered valid fits mode all guarded ample below).exists_ok
    obtain ⟨u', ok', same, written⟩ :=
      (ends_store_of_identity brought covered' (Config.validate_flat valid) bounded rfl
        below enough).exists_ok
    constructor
    · rw [ok, ok']
    · apply h.of_mirrors (fun K => tables_store) (fun K => tables_store)
      apply h.mirrors.wrote g (Config.offsetOf_lt valid) wrote same written
  · obtain ⟨e, error, eq, state⟩ := (ends_store_of_beyond (all .ram) covered beyond).exists_error
    obtain ⟨e', error', eq', state'⟩ := (ends_store_of_beyond brought covered' beyond).exists_error
    constructor
    · rw [error, error', eq, eq']
      rfl
    · rw [state, state']
      apply h

/-- The same byte of a handle is read. -/
theorem read (h : Twins s s') (ledger : s.1.Ledger total [] heap others) :
  (Space.read stores handle offset).MatchesAt Twins (Space.read stores' handle offset) s s'
  := by
  apply (matches_locate.run s s' h).bind
  intro address ok
  obtain ⟨covered, state⟩ := ledger.covering_of_locate ok
  apply (matches_locate.run s s' h).state.load valid bounded fits mode all brought
  rw [state]
  apply covered

/-- The same byte of a handle is written. -/
theorem write (h : Twins s s') (ledger : s.1.Ledger total [] heap others) :
  (Space.write stores handle offset value).MatchesAt Twins
    (Space.write stores' handle offset value) s s'
  := by
  apply (matches_locate.run s s' h).bind
  intro address ok
  obtain ⟨covered, state⟩ := ledger.covering_of_locate ok
  rw [← state] at covered
  have stored : (Space.store stores address value).MatchesAt Twins
      (Space.store stores' address value) _ _
    := (matches_locate.run s s' h).state.store valid bounded fits mode all brought covered
  apply stored.bind
  intro u ok'
  have reported := (matches_reportAfter "write").run _ _ stored.state
  apply reported.bind
  intro u ok''
  apply Op.Matches.pure.run _ _ reported.state

/-- Every command that accesses addresses of areas only gives the same answer and leaves twins
behind. -/
theorem run (h : Twins s s') (ledger : s.1.Ledger total [] heap others) {command : Command}
    (within : command.Within s.1.areas) :
  (command.run stores).MatchesAt Twins (command.run stores') s s'
  := by
  cases command with
  | allocate handle size => apply ((matches_allocate fits all).run s s' h).map
  | free handle => apply (matches_free.run s s' h).map
  | read handle offset => apply (h.read valid bounded fits mode all brought ledger).map
  | write handle offset value => apply (h.write valid bounded fits mode all brought ledger).map
  | addArea id start stop => apply (matches_onAreas.run s s' h).map
  | release => cases within
  | serve request =>
      cases request with
      | growArea id size =>
          apply Op.MatchesAt.map
          apply ((matches_growArea fits all).run s s' h).bind
          intro u ok
          apply Op.Matches.pure.run _ _ ((matches_growArea fits all).run s s' h).state
      | copyToSwap frame slot => cases within
      | load address =>
          apply Op.MatchesAt.map
          apply (h.load valid bounded fits mode all brought within).map
      | store address value =>
          apply Op.MatchesAt.map
          apply (h.store valid bounded fits mode all brought within).bind
          intro u ok
          apply Op.Matches.pure.run _ _ (h.store valid bounded fits mode all brought within).state

end Accesses

end Twins

end VirtualMemory
