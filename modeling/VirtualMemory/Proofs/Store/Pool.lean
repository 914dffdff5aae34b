import VirtualMemory.Store.Memory
import VirtualMemory.Word
import Mathlib.Data.List.Nodup
import Mathlib.Tactic.Use

/-!
# The free frames of a memory

Whatever is put back, a frame is free at most once, is not the reserved frame, and starts inside
the memory.  It need not end there: the test of a frame that is put back looks at its first byte
alone, so that a memory which ends within a frame takes the cut frame for a free one and hands it
out.  Frames that are handed out are whole exactly if the memory has no bytes behind the last
whole frame, or not even one frame.
-/

namespace VirtualMemory.Memory

variable {m : Memory} {size frameSize frame address : Nat} {value : UInt8}

/-! ### Runs -/

/-- The memories that are reached from one of zeros by writing bytes, taking frames, and putting
back frames of any numbers whose first address is a word. -/
inductive Reaches (size frameSize : Nat) : Memory → Prop
  | zeroed : Reaches size frameSize (zeroed size frameSize)
  | write {m : Memory} (reached : Reaches size frameSize m) (address : Nat) (value : UInt8) :
    Reaches size frameSize (writeByte address value m).2
  | acquire {m : Memory} (reached : Reaches size frameSize m) :
    Reaches size frameSize (acquireFrame m).2
  | release {m : Memory} {frame : Nat} (reached : Reaches size frameSize m)
      (word : frame * frameSize < Word.bound) :
    Reaches size frameSize (m.releaseFrame frame)

/-- The free frames are different, are not the first one, and start inside the memory. -/
structure Pooled (size frameSize : Nat) (m : Memory) : Prop where
  size_eq : m.size = size
  frameSize_eq : m.frameSize = frameSize
  nodup : m.free.Nodup
  inside : ∀ frame ∈ m.free, 1 ≤ frame ∧ frame * frameSize < size

theorem framesIn_eq (some : 1 ≤ frameSize) :
  framesIn size frameSize = size / frameSize
  := by
  rw [framesIn, Nat.max_eq_left some]

theorem pooled_zeroed (some : 1 ≤ frameSize) :
  Pooled size frameSize (zeroed size frameSize)
  := by
  use Array.size_replicate, rfl, List.nodup_range'
  intro frame mem
  obtain ⟨pos, lt⟩ := List.mem_range'_1.mp mem
  rw [framesIn_eq some] at lt
  have whole : frame + 1 ≤ size / frameSize := by omega
  rw [Nat.le_div_iff_mul_le some, Nat.add_mul, Nat.one_mul] at whole
  omega

theorem Pooled.writeByte (h : Pooled size frameSize m) :
  Pooled size frameSize (writeByte address value m).2
  := by
  constructor
  · rw [Memory.size, bytes_writeByte, Array.size_setIfInBounds]
    apply h.size_eq
  · rw [frameSize_writeByte]
    apply h.frameSize_eq
  · rw [free_writeByte]
    apply h.nodup
  · rw [free_writeByte]
    apply h.inside

theorem Pooled.acquireFrame (h : Pooled size frameSize m) :
  Pooled size frameSize (acquireFrame m).2
  := by
  obtain ⟨bytes, free, frameSize⟩ := m
  cases free with
  | nil => apply h
  | cons frame rest =>
      use h.size_eq, h.frameSize_eq, h.nodup.tail
      intro f mem
      apply h.inside f (List.mem_of_mem_tail mem)

theorem Pooled.releaseFrame (h : Pooled size frameSize m) :
  Pooled size frameSize (m.releaseFrame frame)
  := by
  rw [Memory.releaseFrame]
  split
  · apply h
  · next kept =>
      rw [not_or, not_or, Nat.not_le] at kept
      obtain ⟨pos, inside, used⟩ := kept
      use h.size_eq, h.frameSize_eq
      · apply h.nodup.append (List.nodup_singleton frame)
        rw [List.disjoint_singleton]
        apply used
      · intro f mem
        rcases List.mem_append.mp mem with mem | mem
        · apply h.inside f mem
        · obtain rfl := List.mem_singleton.mp mem
          rw [← h.size_eq, ← h.frameSize_eq]
          use Nat.pos_of_ne_zero pos
          apply inside

theorem Reaches.pooled (some : 1 ≤ frameSize) (h : Reaches size frameSize m) :
  Pooled size frameSize m
  := by
  induction h with
  | zeroed => apply pooled_zeroed some
  | write reached address value ih => apply ih.writeByte
  | acquire reached ih => apply ih.acquireFrame
  | release reached word ih => apply ih.releaseFrame

/-! ### Whole frames -/

/-- All bytes of a frame can be read and written. -/
def Usable (m : Memory) (frame : Nat) : Prop :=
  (frame + 1) * m.frameSize ≤ m.size ∧
  ∀ offset < m.frameSize,
    (∃ byte, (readByte (frame * m.frameSize + offset) m).1 = .ok byte) ∧
    ∀ value, (writeByte (frame * m.frameSize + offset) value m).1 = .ok ()

/-- The bytes of a frame that is counted are bytes of the memory. -/
theorem usable_of_lt (some : 1 ≤ m.frameSize) (lt : frame < m.frameCount) :
  m.Usable frame
  := by
  rw [frameCount, framesIn_eq some] at lt
  have whole := (Nat.le_div_iff_mul_le some).mp lt
  use whole
  rw [Nat.succ_mul] at whole
  intro offset below
  have inside : frame * m.frameSize + offset < m.bytes.size := by
    apply Nat.lt_of_lt_of_le (Nat.add_lt_add_left below _) whole
  constructor
  · use m.bytes[frame * m.frameSize + offset]
    rw [readByte_fst, Array.getElem?_eq_getElem inside]
  · intro value
    rw [writeByte, dif_pos inside]

/-- A frame from one on that starts in the memory is counted, if no frame is cut. -/
theorem Pooled.lt_frameCount (h : Pooled size frameSize m) (some : 1 ≤ frameSize)
    (uncut : frameSize ∣ size ∨ size < frameSize) (mem : frame ∈ m.free) :
  frame < m.frameCount
  := by
  obtain ⟨pos, lt⟩ := h.inside frame mem
  rw [frameCount, h.size_eq, h.frameSize_eq, framesIn_eq some]
  rcases uncut with ⟨count, rfl⟩ | short
  · rw [Nat.mul_div_cancel_left count some]
    rw [Nat.mul_comm frameSize] at lt
    apply Nat.lt_of_mul_lt_mul_right lt
  · have le : 1 * frameSize ≤ frame * frameSize := Nat.mul_le_mul_right frameSize pos
    omega

/-- A memory that ends within a frame takes the cut frame back. -/
theorem mem_free_releaseFrame_zeroed (cut : ¬ frameSize ∣ size) (long : frameSize ≤ size)
    (some : 1 ≤ frameSize) :
  size / frameSize ∈ ((zeroed size frameSize).releaseFrame (size / frameSize)).free
  := by
  have pos : 1 ≤ size / frameSize := (Nat.le_div_iff_mul_le some).mpr (by omega)
  have inside : size / frameSize * frameSize < size := by
    have ne : size / frameSize * frameSize ≠ size := fun eq => cut ⟨_, by rw [Nat.mul_comm, eq]⟩
    have le := Nat.div_mul_le_self size frameSize
    omega
  rw [free_releaseFrame, if_neg]
  · simp
  · rintro (zero | beyond | free)
    · omega
    · rw [show (zeroed size frameSize).bytes.size = size from Array.size_replicate] at beyond
      exact absurd inside (Nat.not_lt.mpr beyond)
    · have lt := (List.mem_range'_1.mp free).2
      rw [framesIn_eq some] at lt
      omega

/-- In every memory that is reached the free frames are different, are not the reserved one and
start inside the memory; they are whole, and so is each frame handed out, exactly if no frame is
cut by the end of the memory. -/
theorem pool_whole_iff (some : 1 ≤ frameSize) (word : size < Word.bound) :
  (∀ m, Reaches size frameSize m →
    m.free.Nodup ∧ ∀ frame ∈ m.free, 1 ≤ frame ∧ frame * frameSize < size) ∧
  ((∀ m, Reaches size frameSize m →
      (∀ frame ∈ m.free, frame < m.frameCount) ∧
      ∀ frame, (acquireFrame m).1 = .ok frame → (acquireFrame m).2.Usable frame) ↔
    frameSize ∣ size ∨ size < frameSize)
  := by
  constructor
  · intro m reached
    have h := reached.pooled some
    use h.nodup
    apply h.inside
  constructor
  · intro all
    by_contra uncut
    obtain ⟨cut, long⟩ := not_or.mp uncut
    have small : size / frameSize * frameSize < Word.bound :=
      Nat.lt_of_le_of_lt (Nat.div_mul_le_self size frameSize) word
    have reached := (.zeroed : Reaches size frameSize _).release small
    have h := reached.pooled some
    have mem := mem_free_releaseFrame_zeroed cut (Nat.not_lt.mp long) some
    have lt := (all _ reached).1 _ mem
    rw [frameCount, h.size_eq, h.frameSize_eq, framesIn_eq some] at lt
    apply Nat.lt_irrefl _ lt
  · intro uncut m reached
    have h := reached.pooled some
    have counted : ∀ frame ∈ m.free, frame < m.frameCount :=
      fun frame => h.lt_frameCount some uncut
    use counted
    intro frame ok
    have h' := h.acquireFrame
    apply usable_of_lt
    · rw [h'.frameSize_eq]
      apply some
    · rw [frameCount, h'.size_eq, h'.frameSize_eq, ← h.size_eq, ← h.frameSize_eq, ← frameCount]
      apply counted
      rw [acquireFrame_fst] at ok
      split at ok
      · cases ok
      · next rest eq =>
          cases ok
          rw [eq]
          apply List.mem_cons_self

/-- Four bytes are two whole frames of two, and three bytes are not. -/
theorem pool_whole_four_and_not_three :
  (∀ m, Reaches 4 2 m →
    (∀ frame ∈ m.free, frame < m.frameCount) ∧
    ∀ frame, (acquireFrame m).1 = .ok frame → (acquireFrame m).2.Usable frame) ∧
  ¬ ∀ m, Reaches 3 2 m →
    (∀ frame ∈ m.free, frame < m.frameCount) ∧
    ∀ frame, (acquireFrame m).1 = .ok frame → (acquireFrame m).2.Usable frame
  := by
  constructor
  · apply (pool_whole_iff (by decide) (by decide)).2.mpr
    decide
  · rw [(pool_whole_iff (by decide) (by decide)).2]
    decide

end VirtualMemory.Memory
