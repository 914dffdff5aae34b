import VirtualMemory.Proofs.Config.Geometry
import VirtualMemory.Proofs.Paging.Teardown
import VirtualMemory.Proofs.Space.Command

/-!
# Reading and writing virtual addresses

On stores backed by memories, in paged mode, a byte that is read is the one in the contents of
its page, and a byte that is written changes the contents of its page there and nowhere else.
An access that fails changes no contents, and custody of frames and slots is kept by every
command but the release of all pages.
-/

namespace VirtualMemory

open Paging MemoryBacked Command

variable {c : Config} {ω : Type} [MemoryBacked ω] {out : Set Place} {stores : Stores}
variable {t t' : Paging c × ω} {s : Space c × ω} {page address frame offset : Nat} {value : UInt8}

namespace Paging

theorem Guarded.markDirty (g : Guarded out t) (hp : page < pageLimit) :
  Guarded out (markDirty page t).state ∧ Keeps out t (Paging.markDirty page t).state
  := by
  rw [run_markDirty]
  split
  · next resident =>
      constructor
      · use g.agreement.setDirty hp resident
        simp only [places_setDirty hp]
        apply g.custody
      · rw [Keeps]
        simp only [places_setDirty hp]
        apply Kept.refl
  · apply g.unmoved

/-- In paged mode a page that was resolved is in the frame that was answered. -/
theorem Resolution.place (h : Resolution stores page t (.ok frame) t') (mode : c.mode = .paged)
    (fits : c.maxPages ≤ pageLimit) :
  t'.1.places page = some (.ram, frame)
  := by
  have hp : page < pageLimit := lt_of_lt_of_le h.below fits
  cases h with
  | identity below mode' =>
      rw [mode] at mode'
      cases mode'
  | resident below mode place => rw [places_of_lt hp, place]
  | swapped below mode place fault =>
      cases fault with
      | returned brought obtaining copied fit =>
          simp only [places_install hp, Entry.place?_resident? fit, Function.update_self]
  | unmapped below mode place fault =>
      cases fault with
      | mapped obtaining fit cleared =>
          simp only [places_install hp, Entry.place?_resident? fit, Function.update_self]

end Paging

/-! ### Commands that do not write -/

/-- Commands that do not write keep custody and contents. -/
theorem stable_keeps (fits : c.maxPages ≤ pageLimit) :
  Stable (c := c) (fun t' => Guarded out t' ∧ Keeps out t t') stores
  := by
  constructor
  · intro page
    constructor
    rintro t' ⟨g, kept⟩
    have ends : Resolution stores page t' _ _ := resolve_ends
    obtain ⟨g', kept'⟩ := ends.keeps fits g
    use g'
    apply kept.trans kept'
  · intro start stop
    constructor
    rintro t' ⟨g, kept⟩
    have ends : RangeMapping stores start stop t' _ _ := mapAddresses_ends
    obtain ⟨g', kept'⟩ := ends.keeps fits g
    use g'
    apply kept.trans kept'
  · intro address
    constructor
    rintro ⟨p, w⟩ ⟨g, kept⟩
    have eq : memory (Backing.readByte .ram address w).2 = memory w := memory_readByte
    rw [Op.access, Op.onSecond, Op.run_ofAccess]
    use g.of_memory eq
    apply kept.trans (Keeps.of_memory eq)

/-- Other bytes do not matter to custody. -/
theorem Paging.Guarded.of_sameBut {p : Paging c} {w w' : ω} {touched : Device → Nat → Prop}
    (g : Guarded out (p, w)) (same : Memories.SameBut touched (memory w) (memory w')) :
  Guarded out (p, w')
  := ⟨g.agreement, g.custody.of_sameBut same⟩

/-- Every command but the release of all pages keeps custody, and the sizes of the memories. -/
theorem robust_guarded (stores : Stores) {size : Device → Nat} (fits : c.maxPages ≤ pageLimit) :
  Robust (c := c) (ω := ω)
    (fun t => Guarded out t ∧ ∀ device, (memory t.2 device).size = size device) stores
  := by
  constructor
  · constructor
    · intro page
      constructor
      rintro t ⟨g, size_eq⟩
      have ends : Resolution stores page t _ _ := resolve_ends
      obtain ⟨g', kept⟩ := ends.keeps fits g
      use g'
      intro d
      rw [kept.size_eq, size_eq]
    · intro start stop
      constructor
      rintro t ⟨g, size_eq⟩
      have ends : RangeMapping stores start stop t _ _ := mapAddresses_ends
      obtain ⟨g', kept⟩ := ends.keeps fits g
      use g'
      intro d
      rw [kept.size_eq, size_eq]
    · intro address
      constructor
      rintro ⟨p, w⟩ ⟨g, size_eq⟩
      rw [Op.access, Op.onSecond, Op.run_ofAccess]
      use g.of_memory memory_readByte
      intro d
      rw [memory_readByte]
      apply size_eq
  · intro address value
    constructor
    rintro ⟨p, w⟩ ⟨g, size_eq⟩
    rw [Op.access, Op.onSecond, Op.run_ofAccess]
    have same := sameBut_writeByte (Prod.eta (Backing.writeByte .ram address value w)).symm
    use g.of_sameBut same
    intro d
    apply (same.size d).trans (size_eq d)
  · intro frame slot
    constructor
    rintro ⟨p, w⟩ ⟨g, size_eq⟩
    rw [Op.access, Op.onSecond, Op.run_ofAccess]
    have same := sameBut_copyPage (Prod.eta (copyPage c.pageSize .ram frame .swap slot w)).symm
    use g.of_sameBut same
    intro d
    apply (same.size d).trans (size_eq d)
  · intro page below
    constructor
    rintro t ⟨g, size_eq⟩
    obtain ⟨g', kept⟩ := g.markDirty (lt_of_lt_of_le below fits)
    use g'
    intro d
    rw [kept.size_eq, size_eq]

/-! ### Single bytes -/

/-- A byte of the contents has another value, and nothing else changes. -/
structure Wrote (out : Set Place) (page offset : Nat) (value : UInt8) (t t' : Paging c × ω) :
    Prop where
  size_eq : ∀ device, (memory t'.2 device).size = (memory t.2 device).size
  outside : ∀ x ∈ out, ∀ k < c.pageSize,
    (memory t'.2).placeByte c.pageSize x k = (memory t.2).placeByte c.pageSize x k
  content : ∀ other, ∀ k < c.pageSize, content t'.1.places c.pageSize (memory t'.2) other k =
    if other = page ∧ k = offset then value
    else VirtualMemory.content t.1.places c.pageSize (memory t.2) other k

/-- A byte in the frame of a page is written. -/
theorem Paging.Guarded.wrote {p : Paging c} {w w' : ω} (g : Guarded out (p, w))
    (place : p.places page = some (.ram, frame)) (inside : offset < c.pageSize)
    (same : Memories.SameBut (fun d a => d = .ram ∧ a = frame * c.pageSize + offset)
      (memory w) (memory w'))
    (written : (memory w').byte .ram (frame * c.pageSize + offset) = value) :
  Wrote out page offset value (p, w) (p, w')
  := by
  have same_frame : Memories.SameBut (Memories.Covers c.pageSize (.ram, frame)) (memory w)
      (memory w')
    := by
    apply same.mono
    rintro d a ⟨rfl, rfl⟩
    use rfl, Nat.le_add_right _ _
    apply Nat.add_lt_add_left inside _
  use same.size
  · intro x mem k hk
    apply same_frame.placeByte _ hk
    rintro rfl
    apply g.custody.not_mem_of_place place mem
  · intro other k hk
    by_cases here : other = page
    · subst here
      rw [content_of_place place, content_of_place place]
      by_cases eq : k = offset
      · rw [if_pos ⟨rfl, eq⟩, eq]
        apply written
      · rw [if_neg fun h => eq h.2]
        apply same.byte
        rintro ⟨-, h⟩
        apply eq (Nat.add_left_cancel h)
    · rw [if_neg fun h => here h.1]
      rcases place' : p.places other with - | x
      · rw [content_of_none place', content_of_none place']
      · rw [content_of_place place', content_of_place place']
        apply same_frame.placeByte _ hk
        rintro rfl
        apply here (g.custody.page_eq place' place)

theorem Wrote.trans_keeps {t'' : Paging c × ω} (h : Wrote out page offset value t t')
    (kept : Keeps out t' t'') :
  Wrote out page offset value t t''
  := by
  constructor
  · intro d
    rw [kept.size_eq, h.size_eq]
  · intro x mem k hk
    rw [kept.outside x mem k hk, h.outside x mem k hk]
  · intro other k hk
    rw [kept.content other k hk, h.content other k hk]

theorem Wrote.of_keeps {t'' : Paging c × ω} (kept : Keeps out t t')
    (h : Wrote out page offset value t' t'') :
  Wrote out page offset value t t''
  := by
  constructor
  · intro d
    rw [h.size_eq, kept.size_eq]
  · intro x mem k hk
    rw [h.outside x mem k hk, kept.outside x mem k hk]
  · intro other k hk
    rw [h.content other k hk, kept.content other k hk]

section Paged

variable (valid : c.validate = .ok ()) (fits : c.maxPages ≤ pageLimit) (mode : c.mode = .paged)
include valid fits mode

/-- In paged mode a translated address is in the frame of its page. -/
theorem ends_translate_paged (g : Guarded out (s.1.paging, s.2)) :
  (Space.translate stores address).Ends s
    (fun physical s' => (Guarded out (s'.1.paging, s'.2) ∧
      Keeps out (s.1.paging, s.2) (s'.1.paging, s'.2)) ∧ c.pageOf address < c.maxPages ∧
      ∃ frame, physical = frame * c.pageSize + c.offsetOf address ∧
        s'.1.paging.places (c.pageOf address) = some (.ram, frame))
    (fun _ s' => Guarded out (s'.1.paging, s'.2) ∧
      Keeps out (s.1.paging, s.2) (s'.1.paging, s'.2))
  := by
  have ends : Resolution stores (c.pageOf address) (s.1.paging, s.2) _ _ := resolve_ends
  have kept := ends.keeps fits g
  apply ends_translate
  · intro e
    apply g.unmoved
  · rw [Op.Ends]
    split
    · next frame ok =>
        rw [ok] at ends
        have room := ends.room fits mode g.agreement
        have offset := Config.offsetOf_lt (a := address) valid
        rw [Word.wrap_of_lt (by omega)]
        use kept, ends.below, frame
        constructor
        · rfl
        · apply ends.place mode fits
    · apply kept

/-- In paged mode a byte that is read is the one in the contents. -/
theorem ends_load (g : Guarded out (s.1.paging, s.2)) :
  (Space.load stores address).Ends s
    (fun value _ => c.pageOf address < c.maxPages ∧
      value = content s.1.paging.places c.pageSize (memory s.2) (c.pageOf address)
        (c.offsetOf address))
    (fun _ _ => True)
  := by
  simp only [Space.load, Op.ends_bind, Op.ends_emit, Op.ends_access]
  apply (ends_translate_paged valid fits mode g).mono
  · rintro physical s' ⟨⟨-, kept⟩, below, frame, rfl, place⟩
    split
    · next value w' read =>
        have byte := byte_of_readByte (congrArg Prod.fst read)
        have eq := kept.content (c.pageOf address) (c.offsetOf address) (Config.offsetOf_lt valid)
        rw [content_of_place place] at eq
        use below
        rw [← eq, ← byte]
        rfl
    · trivial
  · intro e s' h
    trivial

/-- In paged mode a byte that is written changes the contents there, and nothing changes if it
cannot be written. -/
theorem ends_store (g : Guarded out (s.1.paging, s.2)) :
  (Space.store stores address value).Ends s
    (fun _ s' => c.pageOf address < c.maxPages ∧ Guarded out (s'.1.paging, s'.2) ∧
      Wrote out (c.pageOf address) (c.offsetOf address) value (s.1.paging, s.2)
        (s'.1.paging, s'.2))
    (fun _ s' => Guarded out (s'.1.paging, s'.2) ∧
      Keeps out (s.1.paging, s.2) (s'.1.paging, s'.2))
  := by
  simp only [Space.store, Op.ends_bind, Op.ends_emit, Op.ends_access]
  apply (ends_translate_paged valid fits mode g).mono
  · rintro physical ⟨s₁, w₁⟩ ⟨⟨g₁, kept⟩, below, frame, rfl, place⟩
    dsimp only at g₁ kept place ⊢
    split
    · next u w' h =>
        have written := byte_writeByte h
        have same := sameBut_writeByte h
        have g₂ : Guarded out (s₁.paging, w') := g₁.of_sameBut same
        have wrote := g₁.wrote place (Config.offsetOf_lt valid) same written
        obtain ⟨g₃, kept'⟩ := g₂.markDirty (lt_of_lt_of_le below fits)
        simp only [ends_onPaging, ends_markDirty]
        use below, g₃
        apply (wrote.trans_keeps kept').of_keeps kept
    · next e w' h =>
        have eq := memory_writeByte_of_error (congrArg Prod.fst h)
        rw [h] at eq
        use g₁.of_memory eq
        apply kept.trans (Keeps.of_memory eq)
  · intro e s' h
    apply h

end Paged

/-! ### Commands that access a byte -/

namespace Command

/-- The virtual address that a command accesses, if it accesses one. -/
def target? (t : HandleTable) : Command → Option Nat
  | read handle offset | write handle offset _ =>
    match t.get handle with
    | .ok r => some (r.start + offset)
    | .error _ => none
  | serve (.load address) | serve (.store address _) => some address
  | _ => none

/-- The byte that a command writes, if it writes one. -/
def value? : Command → Option UInt8
  | write _ _ value | serve (.store _ value) => some value
  | _ => none

/-- Whether a command reads a byte. -/
def Reads : Command → Prop
  | read .. | serve (.load ..) => True
  | _ => False

end Command

variable {command : Command}

/-- A command that reads a byte answers with what is loaded from its target. -/
theorem ends_run_of_load {Q : Nat → UInt8 → Prop} (reads : command.Reads)
    (load : ∀ address, (Space.load stores address).Ends s (fun value _ => Q address value)
      (fun _ _ => True)) :
  (command.run stores).Ends s
    (fun answer _ => ∃ address value, command.target? s.1.handles = some address ∧
      Q address value ∧ answer = .byte value)
    (fun _ _ => True)
  := by
  cases command with
  | read handle offset =>
      simp only [Command.run, Command.target?, Space.read, Op.ends_map, Op.ends_bind, ends_locate]
      cases s.1.handles.get handle with
      | error e => trivial
      | ok r =>
          dsimp only
          split
          · trivial
          · apply (load (r.start + offset)).mono
            · intro value s' h
              apply Exists.intro
              use value
            · intro e s' h
              apply h
  | serve request =>
      cases request with
      | load address =>
          simp only [Command.run, Command.target?, Space.serve, Op.ends_map]
          apply (load address).mono
          · intro value s' h
            apply Exists.intro
            use value, rfl, h
            rfl
          · intro e s' h
            apply h
      | growArea area size => cases reads
      | copyToSwap frame slot => cases reads
      | store address value => cases reads
  | allocate handle size => cases reads
  | free handle => cases reads
  | write handle offset value => cases reads
  | addArea id start stop => cases reads
  | release => cases reads

/-- A command that writes a byte stores it at its target, or fails before. -/
theorem ends_run_of_store {Q : Nat → Space c × ω → Prop} {R : Space c × ω → Prop}
    (writes : command.value? = some value) (kept : R s)
    (store : ∀ address, (Space.store stores address value).Ends s (fun _ => Q address)
      (fun _ => R)) :
  (command.run stores).Ends s
    (fun _ s' => ∃ address, command.target? s.1.handles = some address ∧ Q address s')
    (fun _ => R)
  := by
  cases command with
  | write handle offset value' =>
      obtain rfl := Option.some.inj writes
      simp only [Command.run, Command.target?, Space.write, Op.ends_map, Op.ends_bind, ends_locate]
      cases s.1.handles.get handle with
      | error e => apply kept
      | ok r =>
          dsimp only
          split
          · apply kept
          · apply (store (r.start + offset)).mono
            · intro u s' h
              rw [ends_reportAfter]
              apply Exists.intro
              constructor
              · rfl
              · apply h
            · intro e s' h
              apply h
  | serve request =>
      cases request with
      | store address value' =>
          obtain rfl := Option.some.inj writes
          simp only [Command.run, Command.target?, Space.serve, Op.ends_map, Op.ends_bind]
          apply (store address).mono
          · intro u s' h
            apply Exists.intro
            constructor
            · rfl
            · apply h
          · intro e s' h
            apply h
      | growArea area size => cases writes
      | copyToSwap frame slot => cases writes
      | load address => cases writes
  | allocate handle size => cases writes
  | free handle => cases writes
  | read handle offset => cases writes
  | addArea id start stop => cases writes
  | release => cases writes

section Paged

variable (valid : c.validate = .ok ()) (fits : c.maxPages ≤ pageLimit) (mode : c.mode = .paged)
variable (stores)
include valid fits mode

/-- A command that reads a byte answers with the one in the contents at its target. -/
theorem ends_run_reads (reads : command.Reads) (g : Guarded out (s.1.paging, s.2)) :
  (command.run stores).Ends s
    (fun answer _ => ∃ address, command.target? s.1.handles = some address ∧
      c.pageOf address < c.maxPages ∧
      answer = .byte (content s.1.paging.places c.pageSize (memory s.2) (c.pageOf address)
        (c.offsetOf address)))
    (fun _ _ => True)
  := by
  apply (ends_run_of_load reads fun address => ends_load valid fits mode g).mono
  · rintro answer s' ⟨address, value, target, ⟨below, rfl⟩, rfl⟩
    use address
  · intro e s' h
    apply h

/-- A command that writes a byte changes the contents at its target, if it succeeds, and nothing
else. -/
theorem ends_run_writes (writes : command.value? = some value)
    (g : Guarded out (s.1.paging, s.2)) :
  (command.run stores).Ends s
    (fun _ s' => ∃ address, command.target? s.1.handles = some address ∧
      c.pageOf address < c.maxPages ∧ Guarded out (s'.1.paging, s'.2) ∧
      Wrote out (c.pageOf address) (c.offsetOf address) value (s.1.paging, s.2)
        (s'.1.paging, s'.2))
    (fun _ s' => Guarded out (s'.1.paging, s'.2) ∧
      Keeps out (s.1.paging, s.2) (s'.1.paging, s'.2))
  := ends_run_of_store writes ⟨g, Keeps.refl⟩ fun _ => ends_store valid fits mode g

/-- The ways in which a command changes contents: a release empties all pages, a write that
succeeds changes one byte, and nothing changes otherwise. -/
inductive Effect (out : Set Place) (s : Space c × ω) (command : Command) :
    Outcome (Space c × ω) Answer → Prop
  | released {r : Outcome (Space c × ω) Answer} (release : command = .release)
      (emptied : r.state.1.paging = Paging.empty c)
      (bytes : ∀ device, (memory r.state.2 device).bytes = (memory s.2 device).bytes) :
    Effect out s command r
  | wrote {r : Outcome (Space c × ω) Answer} {value : UInt8} {address : Nat} {answer : Answer}
      (writes : command.value? = some value) (ok : r.answer = .ok answer)
      (target : command.target? s.1.handles = some address)
      (wrote : Wrote out (c.pageOf address) (c.offsetOf address) value (s.1.paging, s.2)
        (r.state.1.paging, r.state.2)) :
    Effect out s command r
  | kept {r : Outcome (Space c × ω) Answer} (ne : command ≠ .release)
      (silent : command.value? = none ∨ ∃ e, r.answer = .error e)
      (kept : Keeps out (s.1.paging, s.2) (r.state.1.paging, r.state.2)) :
    Effect out s command r

/-- Commands that do not copy to swap have one of these effects. -/
theorem effect_run (g : Guarded out (s.1.paging, s.2))
    (allowed : ∀ frame slot, command ≠ .serve (.copyToSwap frame slot)) :
  Effect out s command (command.run stores s)
  := by
  have passive (h : command.IsPassive) (silent : command.value? = none) :
      Effect out s command (command.run stores s)
    := by
    apply Effect.kept
    · rintro rfl
      cases h
    · apply Or.inl silent
    · exact (((stable_keeps fits).run h).state s ⟨g, Keeps.refl⟩).2
  have writes {value : UInt8} (h : command.value? = some value) (ne : command ≠ .release) :
      Effect out s command (command.run stores s)
    := by
    have ends := ends_run_writes stores valid fits mode h g
    rw [Op.Ends] at ends
    split at ends
    · next answer ok =>
        obtain ⟨address, target, -, -, wrote⟩ := ends
        apply Effect.wrote h ok target wrote
    · next e error => exact Effect.kept ne (Or.inr ⟨e, error⟩) ends.2
  cases command with
  | release =>
      have ends : Release stores (s.1.paging, s.2) _ _ := releaseAll_ends
      obtain ⟨lost', -, -, emptied, bytes⟩ := ends.keeps mode g
      apply Effect.released rfl
      · rw [state_run_release]
        apply emptied
      · rw [state_run_release]
        apply bytes
  | write handle offset value => apply writes rfl (by simp)
  | serve request =>
      cases request with
      | store address value => apply writes rfl (by simp)
      | copyToSwap frame slot => exact absurd rfl (allowed frame slot)
      | growArea area size => exact passive trivial rfl
      | load address => exact passive trivial rfl
  | allocate handle size => exact passive trivial rfl
  | free handle => exact passive trivial rfl
  | read handle offset => exact passive trivial rfl
  | addArea id start stop => exact passive trivial rfl

end Paged

end VirtualMemory
