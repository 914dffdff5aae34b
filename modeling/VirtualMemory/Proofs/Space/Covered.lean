import VirtualMemory.Proofs.Paging.Capacity
import VirtualMemory.Proofs.Space.Access

/-!
# Accesses to addresses of areas

On reliable stores an access to an address of an area fails only if the page of the address is
beyond the limit.  Without translation it reaches the byte of the main memory at the address; in
paged mode with ample memories, it reaches the byte of the contents of the page, whether the
page has a frame, a slot or no place yet.
-/

namespace VirtualMemory

open Paging MemoryBacked Backing Command

variable {c : Config} {ω : Type} [Reliable ω] {stores : Stores} {s : Space c × ω}
variable {address : Nat} {value : UInt8}
variable {Q : Nat → Space c × ω → Prop} {R : Error → Space c × ω → Prop}

/-! ### Translation -/

section Accesses

variable (brought : stores.ram = true) (covered : (s.1.areas.covering? address).isSome = true)

section Translation

omit [Reliable ω]
variable [Backing ω]
include brought covered

/-- An address of an area is translated by the frame to which its page is resolved. -/
theorem ends_translate_of_covered :
  (Space.translate stores address).Ends s Q R ↔
    (resolve stores (c.pageOf address)).Ends (s.1.paging, s.2)
      (fun frame t => Q (Word.wrap (frame * c.pageSize + c.offsetOf address))
        (⟨s.1.areas, s.1.handles, t.1⟩, t.2))
      (fun e t => R e (⟨s.1.areas, s.1.handles, t.1⟩, t.2))
  := by
  have inside : ¬ (c.mode = .paged ∧ (s.1.areas.covering? address).isSome = false) := by
    rw [covered]
    simp
  rw [ends_translate_iff, brought, if_neg (by decide), if_neg inside]

/-- A page beyond the limit is refused. -/
theorem ends_translate_of_beyond (beyond : c.maxPages ≤ c.pageOf address)
    (refused : R (.pageOutOfRange (c.pageOf address)) s) :
  (Space.translate stores address).Ends s Q R
  := by
  rw [ends_translate_of_covered brought covered, resolve, Op.ends_bind, ends_checkPage]
  constructor
  · intro below
    exact absurd below (Nat.not_lt_of_le beyond)
  · intro above
    apply refused

/-- Without translation the frame of a page has the number of the page. -/
theorem ends_translate_of_identity (valid : c.validate = .ok ())
    (bounded : c.maxPages * c.pageSize ≤ 2 ^ 63) (mode : c.mode = .identity)
    (below : c.pageOf address < c.maxPages)
    (resolved : Q (c.pageOf address * c.pageSize + c.offsetOf address) s) :
  (Space.translate stores address).Ends s Q R
  := by
  rw [ends_translate_of_covered brought covered, resolve, Op.ends_bind, ends_checkPage]
  have physical_lt : c.pageOf address * c.pageSize + c.offsetOf address < Word.bound := by
    have inside := Config.mul_add_offsetOf_lt (a := address) valid below
    rw [Word.bound]
    omega
  constructor
  · intro below'
    rw [mode, Op.ends_pure, Word.wrap_of_lt physical_lt]
    apply resolved
  · intro above
    exact absurd below (Nat.not_lt_of_le above)

/-- Nothing is read from a page beyond the limit. -/
theorem ends_load_of_beyond (beyond : c.maxPages ≤ c.pageOf address) :
  (Space.load stores address).Ends s (fun _ _ => False)
    (fun e s' => e = .pageOutOfRange (c.pageOf address) ∧ s' = s)
  := by
  simp only [Space.load, Op.ends_bind, Op.ends_emit]
  apply ends_translate_of_beyond brought covered beyond
  constructor
  · rfl
  · rfl

/-- Nothing is written to a page beyond the limit. -/
theorem ends_store_of_beyond (beyond : c.maxPages ≤ c.pageOf address) :
  (Space.store stores address value).Ends s (fun _ _ => False)
    (fun e s' => e = .pageOutOfRange (c.pageOf address) ∧ s' = s)
  := by
  simp only [Space.store, Op.ends_bind, Op.ends_emit]
  apply ends_translate_of_beyond brought covered beyond
  constructor
  · rfl
  · rfl

end Translation

/-! ### Without translation -/

section Identity

variable (valid : c.validate = .ok ()) (bounded : c.maxPages * c.pageSize ≤ 2 ^ 63)
variable (mode : c.mode = .identity) (below : c.pageOf address < c.maxPages)
variable (enough : c.maxPages * c.pageSize ≤ (memory s.2 .ram).size)
include brought covered valid bounded mode below enough

/-- Without translation a byte of the main memory is read. -/
theorem ends_load_of_identity :
  (Space.load stores address).Ends s
    (fun value s' => value = (memory s.2).byte .ram
      (c.pageOf address * c.pageSize + c.offsetOf address) ∧ memory s'.2 = memory s.2)
    (fun _ _ => False)
  := by
  simp only [Space.load, Op.ends_bind, Op.ends_emit, Op.ends_access]
  apply ends_translate_of_identity brought covered valid bounded mode below
  have inside := lt_of_lt_of_le (Config.mul_add_offsetOf_lt (a := address) valid below) enough
  obtain ⟨w', read⟩ := readByte_ok inside
  rw [read]
  constructor
  · rfl
  · apply memory_of_readByte read

/-- Without translation a byte of the main memory is written. -/
theorem ends_store_of_identity :
  (Space.store stores address value).Ends s
    (fun _ s' => Memories.SameBut
        (fun d a => d = .ram ∧ a = c.pageOf address * c.pageSize + c.offsetOf address)
        (memory s.2) (memory s'.2) ∧
      (memory s'.2).byte .ram (c.pageOf address * c.pageSize + c.offsetOf address) = value)
    (fun _ _ => False)
  := by
  simp only [Space.store, Op.ends_bind, Op.ends_emit, Op.ends_access]
  apply ends_translate_of_identity brought covered valid bounded mode below
  have inside := lt_of_lt_of_le (Config.mul_add_offsetOf_lt (a := address) valid below) enough
  obtain ⟨w', written⟩ := writeByte_ok inside
  rw [written]
  have memory_eq (t : Paging c × ω) : memory (markDirty (c.pageOf address) t).state.2 = memory t.2
    := by
    rw [run_markDirty]
    split
    · rfl
    · rfl
  simp only [ends_onPaging, ends_markDirty, memory_eq]
  use sameBut_writeByte written
  apply byte_writeByte written

end Identity

/-! ### With ample memories -/

section Ample

variable (valid : c.validate = .ok ()) (fits : c.maxPages ≤ pageLimit) (mode : c.mode = .paged)
variable (all : ∀ device, stores.has device = true) (g : Guarded ∅ (s.1.paging, s.2))
variable (ample : Ample c (sizes (s.1.paging, s.2))) (below : c.pageOf address < c.maxPages)

omit brought

include valid covered fits mode all g ample below

/-- In paged mode the page of a translated address is in a frame, whose bytes are in memory. -/
theorem ends_translate_of_ample
    (resolved : ∀ (frame : Nat) (t : Paging c × ω), Guarded ∅ t → Keeps ∅ (s.1.paging, s.2) t →
      t.1.places (c.pageOf address) = some (.ram, frame) →
      frame * c.pageSize + c.offsetOf address < (memory t.2 .ram).size →
      Q (frame * c.pageSize + c.offsetOf address) (⟨s.1.areas, s.1.handles, t.1⟩, t.2)) :
  (Space.translate stores address).Ends s Q R
  := by
  rw [ends_translate_of_covered (all .ram) covered]
  have ends : Resolution stores (c.pageOf address) (s.1.paging, s.2) _ _ := resolve_ends
  obtain ⟨frame, ok⟩ := ends.succeeds fits all ample.words g (g.supplied ample) below
  rw [ok] at ends
  obtain ⟨g', kept⟩ := ends.keeps fits g
  have place := ends.place mode fits
  have isFrame := g'.custody.isFrame (.page _) _ place
  have inside := isFrame.inside (g'.custody.frameSize .ram)
  have offset := Config.offsetOf_lt (a := address) valid
  have physical_lt := lt_of_lt_of_le (Nat.add_lt_add_left offset _) inside
  have physical_word := physical_lt.trans_eq (kept.size_eq .ram)
  replace physical_word := physical_word.trans (ample.words .ram)
  rw [Op.Ends, ok]
  dsimp only
  rw [Word.wrap_of_lt physical_word]
  apply resolved frame _ g' kept place physical_lt

/-- In paged mode a byte of the contents is read. -/
theorem ends_load_of_ample :
  (Space.load stores address).Ends s
    (fun value s' => value = content s.1.paging.places c.pageSize (memory s.2)
        (c.pageOf address) (c.offsetOf address) ∧
      Guarded ∅ (s'.1.paging, s'.2) ∧ Keeps ∅ (s.1.paging, s.2) (s'.1.paging, s'.2))
    (fun _ _ => False)
  := by
  simp only [Space.load, Op.ends_bind, Op.ends_emit, Op.ends_access]
  apply ends_translate_of_ample covered valid fits mode all g ample below
  intro frame t g' kept place inside
  obtain ⟨w', read⟩ := readByte_ok inside
  have eq := memory_of_readByte read
  rw [read]
  constructor
  · rw [← kept.content _ _ (Config.offsetOf_lt valid), content_of_place place]
    rfl
  use g'.of_memory eq
  apply kept.trans (Keeps.of_memory eq)

/-- In paged mode a byte of the contents is written. -/
theorem ends_store_of_ample :
  (Space.store stores address value).Ends s
    (fun _ s' => Guarded ∅ (s'.1.paging, s'.2) ∧
      Wrote ∅ (c.pageOf address) (c.offsetOf address) value (s.1.paging, s.2)
        (s'.1.paging, s'.2))
    (fun _ _ => False)
  := by
  have succeeds : (Space.store stores address value).Ends s (fun _ _ => True) (fun _ _ => False)
    := by
    simp only [Space.store, Op.ends_bind, Op.ends_emit, Op.ends_access]
    apply ends_translate_of_ample covered valid fits mode all g ample below
    intro frame t g' kept place inside
    obtain ⟨w', written⟩ := writeByte_ok inside
    rw [written]
    simp only [ends_onPaging, ends_markDirty]
  obtain ⟨u, ok, -⟩ := succeeds.exists_ok
  rw [Op.Ends, ok]
  apply ((ends_store valid fits mode g).of_ok ok).2

end Ample

end Accesses

end VirtualMemory
