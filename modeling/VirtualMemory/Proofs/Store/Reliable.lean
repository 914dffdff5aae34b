import VirtualMemory.Proofs.Store.Backed

/-!
# What reliable stores do not refuse

Reliable stores serve each request for a byte that their memory has, so whole frames can be
cleared and copied, and they hand out a frame as long as one is free.
-/

namespace VirtualMemory

open Backing MemoryBacked

variable {ω : Type} [Reliable ω] {w w' : ω} {device source target : Device}
variable {address count read write size frame : Nat} {value : UInt8} {e : StoreError}

/-! ### Single requests -/

theorem readByte_ok (inside : address < (memory w device).size) :
  ∃ w', readByte device address w = (.ok ((memory w).byte device address), w')
  := by
  use (readByte device address w).2
  have served := (Reliable.readByte_serves device address w).1
  rw [Memory.readByte_fst, Array.getElem?_eq_getElem inside] at served
  apply Prod.ext
  · rw [served, Memories.byte, Array.getD_eq_getD_getElem?, Array.getElem?_eq_getElem inside]
    rfl
  · rfl

theorem writeByte_ok (inside : address < (memory w device).size) :
  ∃ w', writeByte device address value w = (.ok (), w')
  := by
  use (writeByte device address value w).2
  have served := (Reliable.writeByte_serves device address value w).1
  have inside' : address < (memory w device).bytes.size := inside
  rw [Memory.writeByte, dif_pos inside'] at served
  apply Prod.ext
  · apply served
  · rfl

theorem acquireFrame_ok (some : (memory w device).free ≠ []) :
  ∃ frame w', acquireFrame device w = (.ok frame, w')
  := by
  obtain ⟨frame, rest, free⟩ := List.exists_cons_of_ne_nil some
  use frame, (acquireFrame device w).2
  have served := (Reliable.acquireFrame_serves device w).1
  rw [Memory.acquireFrame_fst, free] at served
  apply Prod.ext
  · apply served
  · rfl

/-- A frame is refused only if none is free. -/
theorem exhausted_of_acquireFrame (h : acquireFrame device w = (.error e, w')) :
  e = .exhausted ∧ (memory w device).free = []
  := by
  rcases free : (memory w device).free with - | ⟨frame, rest⟩
  · have served := (Reliable.acquireFrame_serves device w).1
    rw [Memory.acquireFrame_fst, free, h] at served
    constructor
    · apply Except.error.inj served
    · rfl
  · have some : (memory w device).free ≠ [] := by
      rw [free]
      apply List.cons_ne_nil
    obtain ⟨frame, w'', ok⟩ := acquireFrame_ok some
    rw [ok] at h
    cases h

/-! ### Whole frames -/

theorem clearBytes_ok (inside : address + count ≤ (memory w device).size) :
  ∃ w', clearBytes device count address w = (.ok (), w')
  := by
  induction count generalizing address w with
  | zero =>
      use w
      rfl
  | succ count ih =>
      have first : address < (memory w device).size := by omega
      obtain ⟨w₁, written⟩ : ∃ w₁, writeByte device address 0 w = (.ok (), w₁)
        := writeByte_ok first
      rw [clearBytes, written]
      apply ih
      rw [(sameBut_writeByte written).size]
      omega

theorem copyBytes_ok (inside_source : read + count ≤ (memory w source).size)
    (inside_target : write + count ≤ (memory w target).size) :
  ∃ w', copyBytes source target count read write w = (.ok (), w')
  := by
  induction count generalizing read write w with
  | zero =>
      use w
      rfl
  | succ count ih =>
      have first : read < (memory w source).size := by omega
      obtain ⟨w₁, reading⟩ := readByte_ok first
      have kept := memory_of_readByte reading
      have first' : write < (memory w₁ target).size := by
        rw [kept]
        omega
      obtain ⟨w₂, written⟩ := writeByte_ok first'
      have sizes := (sameBut_writeByte written).size
      rw [copyBytes, reading]
      dsimp only
      rw [written]
      apply ih
      · rw [sizes, kept]
        omega
      · rw [sizes, kept]
        omega

/-- The bytes of a frame are in its memory, and their addresses are words. -/
theorem frameBase_ok {m : Memories} (isFrame : m.IsFrame (device, frame))
    (frameSize : (m device).frameSize = size) (word : (m device).size < Word.bound) :
  frameBase size frame = .ok (frame * size) ∧ frame * size + size ≤ (m device).size
  := by
  have inside : frame * size + size ≤ (m device).size := isFrame.inside frameSize
  use frameBase_eq_ok_iff.mpr ⟨lt_of_le_of_lt inside word, rfl⟩, inside

theorem clearFrame_ok (isFrame : (memory w).IsFrame (device, frame))
    (frameSize : (memory w device).frameSize = size) (word : (memory w device).size < Word.bound) :
  ∃ w', clearFrame size device frame w = (.ok (), w')
  := by
  obtain ⟨base, inside⟩ := frameBase_ok isFrame frameSize word
  rw [clearFrame, base]
  apply clearBytes_ok inside

theorem copyPage_ok {sourceFrame targetFrame : Nat}
    (isFrame_source : (memory w).IsFrame (source, sourceFrame))
    (isFrame_target : (memory w).IsFrame (target, targetFrame))
    (frameSize : ∀ device, (memory w device).frameSize = size)
    (word : ∀ device, (memory w device).size < Word.bound) :
  ∃ w', copyPage size source sourceFrame target targetFrame w = (.ok (), w')
  := by
  obtain ⟨base, inside⟩ := frameBase_ok isFrame_source (frameSize source) (word source)
  obtain ⟨base', inside'⟩ := frameBase_ok isFrame_target (frameSize target) (word target)
  rw [copyPage, base]
  dsimp only
  rw [base']
  apply copyBytes_ok inside inside'

end VirtualMemory
