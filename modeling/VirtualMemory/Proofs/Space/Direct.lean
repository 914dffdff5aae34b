import VirtualMemory.Proofs.Space.Access

/-!
# Reading and writing without translation

In identity mode a page is the frame of the main store with the same number, so a virtual address
is an address of the main store.  On stores backed by memories, whether or not they are reliable,
a byte that is read is the one in the main memory at its virtual address, a byte that is written
changes the main memory there and nowhere else, and no other command changes a memory but the one
that copies a page to swap.
-/

namespace VirtualMemory

open Paging MemoryBacked Command

variable {c : Config} {ω : Type} [MemoryBacked ω] {stores : Stores} {s : Space c × ω}
variable {t t' : Paging c × ω} {address : Nat} {value : UInt8} {command : Command}

section Identity

variable (mode : c.mode = .identity)
include mode

/-! ### Pages -/

/-- Nothing happens to pages that are mapped. -/
theorem Paging.RangeMapping.state_eq_of_identity {start stop : Nat} {answer : Except Error Unit}
    (h : RangeMapping stores start stop t answer t') :
  t' = t
  := by
  cases h with
  | nothing none => rfl
  | beyond some above => rfl
  | identity some below mode' => rfl
  | paged some below mode' progress =>
      rw [mode] at mode'
      cases mode'

/-- Commands that do not write leave the memories alone. -/
theorem stable_memory {m : Memories} :
  Stable (fun t : Paging c × ω => memory t.2 = m) stores
  := by
  constructor
  · intro page
    constructor
    intro t same
    have ends : Resolution stores page t _ _ := resolve_ends
    rw [(ends.of_identity mode).1]
    apply same
  · intro start stop
    constructor
    intro t same
    have ends : RangeMapping stores start stop t _ _ := mapAddresses_ends
    rw [ends.state_eq_of_identity mode]
    apply same
  · intro address
    constructor
    rintro ⟨p, w⟩ same
    rw [Op.access, Op.onSecond, Op.run_ofAccess]
    exact memory_readByte.trans same

/-! ### Single bytes -/

variable (valid : c.validate = .ok ()) (bounded : c.maxPages * c.pageSize ≤ 2 ^ 63)
include valid bounded

/-- The address in the main store is the virtual one. -/
theorem ends_translate_identity :
  (Space.translate stores address).Ends s (fun physical s' => physical = address ∧ s' = s)
    (fun _ s' => s' = s)
  := by
  have word := Config.pageSize_lt_bound valid bounded
  have ends : Resolution stores (c.pageOf address) (s.1.paging, s.2) _ _ := resolve_ends
  obtain ⟨same, frame_eq⟩ := ends.of_identity mode
  apply ends_translate
  · intro e
    rfl
  · rw [Op.Ends, same]
    split
    · next frame ok =>
        rw [ok] at ends
        have below := (Config.pageOf_lt_iff valid word).mp ends.below
        have address_lt : address < Word.bound := by
          rw [Word.bound]
          omega
        rw [frame_eq frame ok, Config.pageOf_mul_add_offsetOf valid word,
          Word.wrap_of_lt address_lt]
        constructor
        · rfl
        · rfl
    · rfl

/-- A byte that is read is the one in the main memory. -/
theorem ends_load_identity :
  (Space.load stores address).Ends s
    (fun value _ => value = (memory s.2).byte .ram address) (fun _ _ => True)
  := by
  simp only [Space.load, Op.ends_bind, Op.ends_emit, Op.ends_access]
  apply (ends_translate_identity mode valid bounded).mono
  · rintro physical s' ⟨rfl, rfl⟩
    split
    · next value w' read => exact (byte_of_readByte (congrArg Prod.fst read)).symm
    · trivial
  · intro e s' h
    trivial

/-- A byte that is written changes the main memory there, and nothing changes if it cannot be
written. -/
theorem ends_store_identity :
  (Space.store stores address value).Ends s
    (fun _ s' => ∀ other, (memory s'.2).byte .ram other =
      if other = address then value else (memory s.2).byte .ram other)
    (fun _ s' => memory s'.2 = memory s.2)
  := by
  simp only [Space.store, Op.ends_bind, Op.ends_emit, Op.ends_access]
  apply (ends_translate_identity mode valid bounded).mono
  · rintro physical s' ⟨rfl, rfl⟩
    split
    · next u w' h =>
        have world : (markDirty (c.pageOf physical) (s'.1.paging, w')).state.2 = w' := by
          rw [run_markDirty]
          split
          · rfl
          · rfl
        simp only [ends_onPaging, ends_markDirty, world]
        intro other
        split
        · next eq =>
            subst eq
            apply byte_writeByte h
        · next ne =>
            apply (sameBut_writeByte h).byte
            rintro ⟨-, eq⟩
            apply ne eq
    · next e w' h =>
        have eq := memory_writeByte_of_error (congrArg Prod.fst h)
        rw [h] at eq
        apply eq
  · rintro e s' rfl
    rfl

/-! ### Commands -/

variable (stores)

/-- A command that reads a byte answers with the one in the main memory at its target. -/
theorem ends_run_reads_identity (reads : command.Reads) :
  (command.run stores).Ends s
    (fun answer _ => ∃ address, command.target? s.1.handles = some address ∧
      answer = .byte ((memory s.2).byte .ram address))
    (fun _ _ => True)
  := by
  apply (ends_run_of_load reads fun address => ends_load_identity mode valid bounded).mono
  · rintro answer s' ⟨address, value, target, rfl, rfl⟩
    use address
  · intro e s' h
    apply h

/-- A command that writes a byte changes the main memory at its target, if it succeeds, and no
other command changes it. -/
theorem ends_run_identity (ne : command ≠ .release)
    (allowed : ∀ frame slot, command ≠ .serve (.copyToSwap frame slot)) :
  (command.run stores).Ends s
    (fun _ s' => ∀ other, (memory s'.2).byte .ram other =
      if command.target? s.1.handles = some other then
        command.value?.getD ((memory s.2).byte .ram other)
      else (memory s.2).byte .ram other)
    (fun _ s' => memory s'.2 = memory s.2)
  := by
  rcases writes : command.value? with - | value
  · have passive : command.IsPassive := by
      cases command with
      | write handle offset value => cases writes
      | serve request =>
          cases request with
          | store address value => cases writes
          | copyToSwap frame slot => exact absurd rfl (allowed frame slot)
          | growArea area size => trivial
          | load address => trivial
      | release => exact absurd rfl ne
      | allocate handle size => trivial
      | free handle => trivial
      | read handle offset => trivial
      | addArea id start stop => trivial
    have kept : (command.run stores : Op (Space c × ω) Answer).Preserves
        (OnPages fun t => memory t.2 = memory s.2)
      := (stable_memory mode).run passive
    have same := kept.state s rfl
    apply (Op.ends_iff_state (P := fun s' : Space c × ω => memory s'.2 = memory s.2).mpr same).mono
    · intro answer s' same other
      rw [same, Option.getD_none, ite_self]
    · intro e s' same
      apply same
  · apply (ends_run_of_store (R := fun s' : Space c × ω => memory s'.2 = memory s.2) writes rfl
      fun address => ends_store_identity mode valid bounded).mono
    · rintro answer s' ⟨address, target, written⟩ other
      simp only [written other, target, Option.some_inj, eq_comm, Option.getD_some]
    · intro e s' same
      apply same

end Identity

end VirtualMemory
