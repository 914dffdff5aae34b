import VirtualMemory.Proofs.Store.Reliable
import VirtualMemory.Proofs.Store.Worlds

/-!
# Copying a page

A page is copied byte by byte, and the copy stops at the first address that is not in its store.
On reliable stores this says all there is to say: which address that is, which bytes have been
copied by then, and that nothing else has changed.  Both frames may be of one store, because a
run that copies forward reads no byte that it has written unless the byte stays where it is.
-/

namespace VirtualMemory

open Backing MemoryBacked

namespace Memories

variable {m m' m'' : Memories} {source target : Device} {read write count done : Nat}
variable {answer : Except StoreError Unit} {value : UInt8}

/-- The bytes from `write` on are the ones that were found from `read` on, `count` of them, and
nothing else has changed. -/
structure Copied (source : Device) (read : Nat) (target : Device) (write count : Nat)
    (m m' : Memories) : Prop where
  bytes : ∀ k < count, m'.byte target (write + k) = m.byte source (read + k)
  rest : SameBut (fun d a => d = target ∧ write ≤ a ∧ a < write + count) m m'

/-- How a copy of `count` bytes ends: it comes to its end, or it answers with the first address
that is in no store. -/
inductive CopyEnds (m : Memories) (source : Device) (read : Nat) (target : Device)
    (write count : Nat) : Nat → Except StoreError Unit → Prop
  /-- All bytes are copied. -/
  | finished : CopyEnds m source read target write count count (.ok ())
  /-- The next byte is not there to be read. -/
  | unread {k : Nat} (more : k < count) (outside : (m source).size ≤ read + k) :
    CopyEnds m source read target write count k (.error (.outOfRange (read + k)))
  /-- The next byte can be read, but there is no place to write it to. -/
  | unwritten {k : Nat} (more : k < count) (inside : read + k < (m source).size)
      (outside : (m target).size ≤ write + k) :
    CopyEnds m source read target write count k (.error (.outOfRange (write + k)))

/-- The first `count` bytes are there to be read, and have a place to be written to. -/
def HasCells (m : Memories) (source : Device) (read : Nat) (target : Device)
    (write count : Nat) : Prop :=
  ∀ k < count, read + k < (m source).size ∧ write + k < (m target).size

/-- Nothing is copied when nothing has changed. -/
theorem Copied.zero (same : m' = m) :
  Copied source read target write 0 m m'
  := by
  constructor
  · intro k lt
    cases lt
  · apply SameBut.of_eq same

/-- A byte is copied, and then the bytes behind it.  Those are still to be found where they
were: no byte behind the first one has been written. -/
theorem Copied.cons (first : SameBut (fun d a => d = target ∧ a = write) m m')
    (copied : m'.byte target write = m.byte source read)
    (later : Copied source (read + 1) target (write + 1) count m' m'')
    (ahead : source = target → write ≤ read ∨ read + count < write) :
  Copied source read target write (count + 1) m m''
  := by
  constructor
  · intro k lt
    rcases k with - | k
    · rw [Nat.add_zero, Nat.add_zero, ← copied]
      apply later.rest.byte
      rintro ⟨-, ge, -⟩
      omega
    · have kept : m'.byte source (read + 1 + k) = m.byte source (read + 1 + k) := by
        apply first.byte
        rintro ⟨same, written⟩
        have := ahead same
        omega
      have moved := later.bytes k (Nat.lt_of_succ_lt_succ lt)
      rw [kept, Nat.add_assoc, Nat.add_assoc read, Nat.add_comm 1] at moved
      apply moved
  · refine (first.mono ?_).trans (later.rest.mono ?_)
    · rintro d a ⟨rfl, rfl⟩
      use rfl, Nat.le_refl _
      omega
    · rintro d a ⟨rfl, ge, lt⟩
      constructor
      · rfl
      constructor
      · omega
      · omega

theorem HasCells.zero :
  m.HasCells source read target write 0
  := by
  intro k lt
  cases lt

theorem HasCells.cons (read_inside : read < (m source).size)
    (write_inside : write < (m target).size)
    (sizes : ∀ device, (m' device).size = (m device).size)
    (later : m'.HasCells source (read + 1) target (write + 1) count) :
  m.HasCells source read target write (count + 1)
  := by
  intro k lt
  rcases k with - | k
  · use read_inside
    apply write_inside
  · have cell := later k (Nat.lt_of_succ_lt_succ lt)
    rw [sizes, sizes] at cell
    omega

theorem CopyEnds.le (ends : m.CopyEnds source read target write count done answer) :
  done ≤ count
  := by
  cases ends with
  | finished => apply Nat.le_refl
  | unread more => apply Nat.le_of_lt more
  | unwritten more => apply Nat.le_of_lt more

/-- A copy ends as the copy of the bytes behind the first one. -/
theorem CopyEnds.cons (sizes : ∀ device, (m' device).size = (m device).size)
    (later : m'.CopyEnds source (read + 1) target (write + 1) count done answer) :
  m.CopyEnds source read target write (count + 1) (done + 1) answer
  := by
  cases later with
  | finished => apply CopyEnds.finished
  | unread more outside =>
      rw [sizes] at outside
      rw [Nat.add_assoc, Nat.add_comm 1]
      apply CopyEnds.unread
      · omega
      · omega
  | unwritten more inside outside =>
      rw [sizes] at inside outside
      rw [Nat.add_assoc, Nat.add_comm 1]
      apply CopyEnds.unwritten
      · omega
      · omega
      · omega

end Memories

section Copies

variable {ω : Type} [Reliable ω] {source target : Device}
variable {address read write count size sourceFrame targetFrame : Nat} {value : UInt8} {w : ω}

/-- What is not in a store cannot be read. -/
theorem readByte_outside (outside : (memory w source).size ≤ address) :
  ∃ w', readByte source address w = (.error (.outOfRange address), w') ∧ memory w' = memory w
  := by
  use (readByte source address w).2
  constructor
  · apply Prod.ext
    · rw [(Reliable.readByte_serves source address w).1, Memory.readByte_fst,
        Array.getElem?_eq_none outside]
    · rfl
  · apply memory_readByte

/-- What is not in a store cannot be written. -/
theorem writeByte_outside (outside : (memory w target).size ≤ address) :
  ∃ w', writeByte target address value w = (.error (.outOfRange address), w') ∧
    memory w' = memory w
  := by
  have outside' : ¬ (address < (memory w target).bytes.size) := Nat.not_lt.mpr outside
  have refused : (writeByte target address value w).1 = .error (.outOfRange address) := by
    rw [(Reliable.writeByte_serves target address value w).1, Memory.writeByte, dif_neg outside']
  use (writeByte target address value w).2, Prod.ext refused rfl
  apply memory_writeByte_of_error refused

/-- A run that copies forward copies byte after byte until an address is in no store. -/
theorem copyBytes_ends (ahead : source = target → write ≤ read ∨ read + count ≤ write) :
  ∃ k answer w', copyBytes source target count read write w = (answer, w') ∧
    (memory w).CopyEnds source read target write count k answer ∧
    (memory w).HasCells source read target write k ∧
    Memories.Copied source read target write k (memory w) (memory w')
  := by
  induction count generalizing read write w with
  | zero =>
      use 0, .ok (), w, rfl, .finished, .zero
      exact .zero rfl
  | succ count ih =>
      rw [copyBytes]
      by_cases read_inside : read < (memory w source).size
      · obtain ⟨w₁, reading⟩ := readByte_ok read_inside
        have kept := memory_of_readByte reading
        rw [reading]
        dsimp only
        by_cases write_inside : write < (memory w target).size
        · obtain ⟨w₂, written⟩ : ∃ w₂, writeByte target write _ w₁ = (.ok (), w₂) := by
            apply writeByte_ok
            rw [kept]
            apply write_inside
          have first := sameBut_writeByte written
          rw [kept] at first
          rw [written]
          have ahead' : source = target → write + 1 ≤ read + 1 ∨ read + 1 + count ≤ write + 1 := by
            intro same
            have := ahead same
            omega
          obtain ⟨k, answer, w', run, ends, cells, copied⟩ := ih (w := w₂) ahead'
          use k + 1, answer, w',
            run, ends.cons first.size, .cons read_inside write_inside first.size cells
          refine .cons first (byte_writeByte written) copied ?_
          intro same
          have := ahead same
          have := ends.le
          omega
        · have outside := Nat.not_lt.mp write_inside
          rw [← kept] at outside
          obtain ⟨w₂, refused, same⟩ := writeByte_outside outside
          rw [refused]
          refine ⟨0, _, w₂, rfl, .unwritten ?_ read_inside ?_, .zero, .zero (same.trans kept)⟩
          · apply Nat.succ_pos
          · rw [← kept]
            apply outside
      · have outside := Nat.not_lt.mp read_inside
        obtain ⟨w₁, refused, same⟩ := readByte_outside outside
        rw [refused]
        exact ⟨0, _, w₁, rfl, .unread (Nat.succ_pos _) outside, .zero, .zero same⟩

/-- Two frames of one store have the same first byte, or no byte in common. -/
theorem frames_apart :
  targetFrame * size ≤ sourceFrame * size ∨ sourceFrame * size + size ≤ targetFrame * size
  := by
  rcases Nat.lt_or_ge sourceFrame targetFrame with lt | le
  · apply Or.inr
    rw [← Nat.succ_mul]
    apply Nat.mul_le_mul_right _ lt
  · apply Or.inl
    apply Nat.mul_le_mul_right _ le

theorem frameBase_of_no_room {frame : Nat} (none : Word.bound ≤ frame * size + size) :
  frameBase size frame = .error (.outOfRange frame)
  := if_neg (Nat.not_lt.mpr none)

/-- A frame whose addresses are not words is refused before anything is done, the source first.
Otherwise the bytes of the source are copied one after the other, up to the first address that
is in no store; the answer names that address, and all other bytes, the sizes of the stores and
their free frames are what they were.  The bytes are those that the source had at the outset,
also if both frames are of one store. -/
theorem copyPage_ends (w : ω) (size : Nat) (source : Device) (sourceFrame : Nat)
    (target : Device) (targetFrame : Nat) :
  (Word.bound ≤ sourceFrame * size + size →
    copyPage size source sourceFrame target targetFrame w
      = (.error (.outOfRange sourceFrame), w)) ∧
  (sourceFrame * size + size < Word.bound → Word.bound ≤ targetFrame * size + size →
    copyPage size source sourceFrame target targetFrame w
      = (.error (.outOfRange targetFrame), w)) ∧
  (sourceFrame * size + size < Word.bound → targetFrame * size + size < Word.bound →
    ∃ k answer w', copyPage size source sourceFrame target targetFrame w = (answer, w') ∧
      (memory w).CopyEnds source (sourceFrame * size) target (targetFrame * size) size k answer ∧
      (memory w).HasCells source (sourceFrame * size) target (targetFrame * size) k ∧
      Memories.Copied source (sourceFrame * size) target (targetFrame * size) k
        (memory w) (memory w'))
  := by
  constructor
  · intro none
    rw [copyPage, frameBase_of_no_room none]
  constructor
  · intro room none
    rw [copyPage, frameBase_eq_ok_iff.mpr ⟨room, rfl⟩]
    dsimp only
    rw [frameBase_of_no_room none]
  · intro room room'
    rw [copyPage, frameBase_eq_ok_iff.mpr ⟨room, rfl⟩]
    dsimp only
    rw [frameBase_eq_ok_iff.mpr ⟨room', rfl⟩]
    apply copyBytes_ends
    intro same
    apply frames_apart

end Copies

/-- Memories of ten bytes, whose third frame has only two of its four bytes. -/
def Memories.short : Memories := fun _ => ⟨#[10, 11, 12, 13, 14, 15, 16, 17, 18, 19], [1], 4⟩

/-- A copy within one store that stops in the middle of the page, where the cell at offset two is
the first one that is missing, and copies that are refused because a frame is too far up, whichever
of the two it is. -/
theorem copyPage_ends_short :
  (∃ m, copyPage 4 .ram 1 .ram 2 Memories.short = (.error (.outOfRange 10), m) ∧
    Memories.Copied .ram 4 .ram 8 2 Memories.short m ∧ m.byte .ram 9 = 15) ∧
  copyPage 4 .ram (2 ^ 62) .swap (2 ^ 63) Memories.short
    = (.error (.outOfRange (2 ^ 62)), Memories.short) ∧
  copyPage 4 .ram 1 .swap (2 ^ 63) Memories.short = (.error (.outOfRange (2 ^ 63)), Memories.short)
  := by
  constructor
  · obtain ⟨k, answer, m, run, ends, cells, copied⟩ :=
      (copyPage_ends Memories.short 4 .ram 1 .ram 2).2.2 (by decide) (by decide)
    have le : k ≤ 2 := by
      by_contra more
      have cell : (10 : Nat) < 10 := (cells 2 (by omega)).2
      omega
    have two : k = 2 ∧ answer = .error (.outOfRange 10) := by
      cases ends with
      | finished => omega
      | unread more outside =>
          have outside' : 10 ≤ 4 + k := outside
          omega
      | unwritten more inside outside =>
          have outside' : 10 ≤ 8 + k := outside
          obtain rfl : k = 2 := by omega
          constructor
          · rfl
          · rfl
    obtain ⟨rfl, rfl⟩ := two
    use m, run, copied
    apply copied.bytes 1 (by decide)
  constructor
  · apply (copyPage_ends Memories.short 4 .ram (2 ^ 62) .swap (2 ^ 63)).1
    decide
  · apply (copyPage_ends Memories.short 4 .ram 1 .swap (2 ^ 63)).2.1
    · decide
    · decide

end VirtualMemory
