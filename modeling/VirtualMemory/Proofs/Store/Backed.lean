import VirtualMemory.Store.Bytes
import VirtualMemory.Proofs.Store.Memories

/-!
# Stores backed by memories

The stores of a world are backed by memories if each request is either served by the memory of
its device or refused, and a refused request changes no memory.  Any request may be refused at
any time.  The stores are reliable if no request is refused but by the memories themselves.
What follows are the effects of the requests, and of runs of them, on the memories: a run
touches its target only, and if it ends it did all of its work.
-/

namespace VirtualMemory

open Backing

section Requests

variable {ω α : Type}

/-- The request is refused, and no memory changes. -/
def Refuses (memory : ω → Memories) (x : Access ω α) (w : ω) : Prop :=
  (∃ e, (x w).1 = .error e) ∧ memory (x w).2 = memory w

/-- The request is answered by the memory of a device. -/
def Serves (memory : ω → Memories) (device : Device) (request : Access Memory α)
    (x : Access ω α) (w : ω) : Prop :=
  (x w).1 = (request (memory w device)).1 ∧
    memory (x w).2 = Function.update (memory w) device (request (memory w device)).2

end Requests

section Runs

variable {ω : Type} [Backing ω] {R : ω → ω → Prop} {device source target : Device}
variable {count address read write : Nat} {w : ω}

/-- A run that clears bytes goes no further than its writes do. -/
theorem clearBytes_closed (refl : ∀ w, R w w) (trans : ∀ {w w' w''}, R w w' → R w' w'' → R w w'')
    (writes : ∀ a value w, address ≤ a → a < address + count →
      R w (writeByte device a value w).2) :
  R w (clearBytes device count address w).2
  := by
  induction count generalizing address w with
  | zero => apply refl
  | succ count ih =>
      have first := writes address 0 w (Nat.le_refl _) (by omega)
      rw [clearBytes]
      split
      · next e w' h =>
          rw [h] at first
          apply first
      · next u w' h =>
          rw [h] at first
          apply trans first
          apply ih
          intro a value w ge lt
          apply writes a value w (by omega) (by omega)

/-- A run that copies bytes goes no further than its reads and its writes do. -/
theorem copyBytes_closed (refl : ∀ w, R w w) (trans : ∀ {w w' w''}, R w w' → R w' w'' → R w w'')
    (reads : ∀ a w, R w (readByte source a w).2)
    (writes : ∀ a value w, write ≤ a → a < write + count → R w (writeByte target a value w).2) :
  R w (copyBytes source target count read write w).2
  := by
  induction count generalizing read write w with
  | zero => apply refl
  | succ count ih =>
      have first := reads read w
      rw [copyBytes]
      split
      · next e w₁ h =>
          rw [h] at first
          apply first
      · next byte w₁ h =>
          rw [h] at first
          have second := writes write byte w₁ (Nat.le_refl _) (by omega)
          split
          · next e w₂ h₂ =>
              rw [h₂] at second
              apply trans first second
          · next u w₂ h₂ =>
              rw [h₂] at second
              apply trans first (trans second _)
              apply ih
              intro a value w ge lt
              apply writes a value w (by omega) (by omega)

end Runs

/-- Each request is served by the memory of its device or refused. -/
class MemoryBacked (ω : Type) extends Backing ω where
  /-- The memories of a world. -/
  memory : ω → Memories
  readByte_ends : ∀ device address w, Refuses memory (readByte device address) w ∨
    Serves memory device (Memory.readByte address) (readByte device address) w
  writeByte_ends : ∀ device address value w, Refuses memory (writeByte device address value) w ∨
    Serves memory device (Memory.writeByte address value) (writeByte device address value) w
  acquireFrame_ends : ∀ device w, Refuses memory (acquireFrame device) w ∨
    Serves memory device Memory.acquireFrame (acquireFrame device) w
  memory_releaseFrame : ∀ device frame w, memory (releaseFrame device frame w) =
    Function.update (memory w) device ((memory w device).releaseFrame frame)

/-- Each request is served by the memory of its device. -/
class Reliable (ω : Type) extends MemoryBacked ω where
  readByte_serves : ∀ device address w,
    Serves memory device (Memory.readByte address) (readByte device address) w
  writeByte_serves : ∀ device address value w,
    Serves memory device (Memory.writeByte address value) (writeByte device address value) w
  acquireFrame_serves : ∀ device w,
    Serves memory device Memory.acquireFrame (acquireFrame device) w

open MemoryBacked

variable {ω : Type} [MemoryBacked ω] {w w' : ω} {device : Device} {address frame : Nat}
variable {value : UInt8} {e : StoreError}

/-! ### Single requests -/

/-- Reading changes nothing. -/
@[simp]
theorem memory_readByte :
  memory (readByte device address w).2 = memory w
  := by
  rcases readByte_ends device address w with ⟨-, kept⟩ | ⟨-, served⟩
  · apply kept
  · rw [served, Memory.readByte_snd, Function.update_eq_self]

theorem memory_of_readByte {answer : Except StoreError UInt8}
    (h : readByte device address w = (answer, w')) :
  memory w' = memory w
  := by
  obtain rfl : (readByte device address w).2 = w' := congrArg Prod.snd h
  apply memory_readByte

/-- A byte that is read is the one in memory. -/
theorem byte_of_readByte (ok : (readByte device address w).1 = .ok value) :
  (memory w).byte device address = value
  := by
  rcases readByte_ends device address w with ⟨⟨e, refused⟩, -⟩ | ⟨served, -⟩
  · rw [refused] at ok
    cases ok
  · rw [served, Memory.readByte_fst] at ok
    split at ok
    · next found =>
        obtain rfl := Except.ok.inj ok
        rw [Memories.byte, Array.getD_eq_getD_getElem?, found]
        rfl
    · cases ok

/-- The memories after a write, of which only the byte at the address can be another. -/
theorem sameBut_writeByte {answer : Except StoreError Unit}
    (h : writeByte device address value w = (answer, w')) :
  Memories.SameBut (fun d a => d = device ∧ a = address) (memory w) (memory w')
  := by
  obtain rfl : (writeByte device address value w).2 = w' := congrArg Prod.snd h
  rcases writeByte_ends device address value w with ⟨-, kept⟩ | ⟨-, served⟩
  · apply Memories.SameBut.of_eq kept
  · rw [served]
    constructor
    · intro d
      rw [Function.update_apply]
      split
      · next h => rw [Memory.free_writeByte, h]
      · rfl
    · intro d
      rw [Function.update_apply]
      split
      · next h => rw [Memory.frameSize_writeByte, h]
      · rfl
    · intro d
      rw [Function.update_apply]
      split
      · next h => rw [Memory.size, Memory.bytes_writeByte, Array.size_setIfInBounds, h, Memory.size]
      · rfl
    · intro d a outside
      rw [Memories.byte, Function.update_apply]
      split
      · next h =>
          have ne : address ≠ a := fun eq => outside ⟨h, eq.symm⟩
          rw [Memory.bytes_writeByte, Array.getD_eq_getD_getElem?,
            Array.getElem?_setIfInBounds_ne ne, ← Array.getD_eq_getD_getElem?, h, Memories.byte]
      · rfl

/-- A write that succeeds leaves the value behind. -/
theorem byte_writeByte {u : Unit} (h : writeByte device address value w = (.ok u, w')) :
  (memory w').byte device address = value
  := by
  have ok : (writeByte device address value w).1 = .ok u := congrArg Prod.fst h
  obtain rfl : (writeByte device address value w).2 = w' := congrArg Prod.snd h
  rcases writeByte_ends device address value w with ⟨⟨e, refused⟩, -⟩ | ⟨answer, served⟩
  · rw [refused] at ok
    cases ok
  · rw [served, Memories.byte, Function.update_self, Memory.bytes_writeByte]
    have inside : address < (memory w device).bytes.size := by
      rw [ok] at answer
      by_contra outside
      rw [Memory.writeByte, dif_neg outside] at answer
      cases answer
    rw [Array.getD_eq_getD_getElem?, Array.getElem?_setIfInBounds_self_of_lt inside]
    rfl

/-- A write that fails changes nothing. -/
theorem memory_writeByte_of_error (error : (writeByte device address value w).1 = .error e) :
  memory (writeByte device address value w).2 = memory w
  := by
  rcases writeByte_ends device address value w with ⟨-, kept⟩ | ⟨answer, served⟩
  · apply kept
  · rw [error] at answer
    have outside : ¬ (address < (memory w device).bytes.size) := by
      intro inside
      rw [Memory.writeByte, dif_pos inside] at answer
      cases answer
    rw [served, Memory.writeByte, dif_neg outside, Function.update_eq_self]

/-- A frame that is handed out was the first free one. -/
theorem memory_acquireFrame_of_ok (ok : acquireFrame device w = (.ok frame, w')) :
  ∃ rest, (memory w device).free = frame :: rest ∧ memory w' = (memory w).withFree device rest
  := by
  have answer : (acquireFrame device w).1 = .ok frame := by rw [ok]
  have world : (acquireFrame device w).2 = w' := by rw [ok]
  rcases acquireFrame_ends device w with ⟨⟨e, refused⟩, -⟩ | ⟨served, change⟩
  · rw [refused] at answer
    cases answer
  · rw [answer, Memory.acquireFrame_fst] at served
    rw [world] at change
    split at served
    · cases served
    · next first rest found =>
        obtain rfl := Except.ok.inj served
        use rest, found
        rw [change, Memories.withFree, Memory.acquireFrame_snd, found]
        rfl

/-- If no frame is handed out nothing changes. -/
theorem memory_acquireFrame_of_error (error : acquireFrame device w = (.error e, w')) :
  memory w' = memory w
  := by
  have answer : (acquireFrame device w).1 = .error e := by rw [error]
  have world : (acquireFrame device w).2 = w' := by rw [error]
  rcases acquireFrame_ends device w with ⟨-, kept⟩ | ⟨served, change⟩
  · rw [← world, kept]
  · rw [answer, Memory.acquireFrame_fst] at served
    rw [world] at change
    split at served
    · next found =>
        rw [change, Memory.acquireFrame_snd, found, List.tail_nil, ← found]
        apply Function.update_eq_self
    · cases served

/-- A frame that is given back becomes the last free one. -/
theorem memory_releaseFrame_of_isFrame (h : (memory w).IsFrame (device, frame))
    (used : frame ∉ (memory w device).free) :
  memory (releaseFrame device frame w) =
    (memory w).withFree device ((memory w device).free ++ [frame])
  := by
  rw [memory_releaseFrame]
  apply h.releaseFrame used

/-! ### Runs of bytes -/

variable {count : Nat}

/-- Clearing touches the bytes to clear only. -/
theorem sameBut_clearBytes :
  Memories.SameBut (fun d a => d = device ∧ address ≤ a ∧ a < address + count) (memory w)
    (memory (clearBytes device count address w).2)
  := by
  apply clearBytes_closed (R := fun w w' => Memories.SameBut _ (memory w) (memory w'))
  · intro w
    apply Memories.SameBut.refl
  · intro w w' w'' h h'
    apply h.trans h'
  · intro a value w ge lt
    apply (sameBut_writeByte (Prod.eta (writeByte device a value w)).symm).mono
    rintro d a ⟨rfl, rfl⟩
    use rfl, ge, lt

/-- After clearing the bytes are zero. -/
theorem byte_clearBytes {u : Unit} {k : Nat}
    (ok : (clearBytes device count address w).1 = .ok u) (hk : k < count) :
  (memory (clearBytes device count address w).2).byte device (address + k) = 0
  := by
  induction count generalizing address w k with
  | zero => cases hk
  | succ count ih =>
      rw [clearBytes] at ok ⊢
      split at ok
      · cases ok
      · next u' w' h =>
          have first := byte_writeByte h
          cases k with
          | zero =>
              rw [sameBut_clearBytes.byte]
              · apply first
              · rintro ⟨-, ge, -⟩
                omega
          | succ k =>
              rw [← ih ok (Nat.lt_of_succ_lt_succ hk)]
              congr 1
              omega

variable {source target : Device} {read write : Nat}

/-- Copying touches the bytes of the target only. -/
theorem sameBut_copyBytes :
  Memories.SameBut (fun d a => d = target ∧ write ≤ a ∧ a < write + count) (memory w)
    (memory (copyBytes source target count read write w).2)
  := by
  apply copyBytes_closed (R := fun w w' => Memories.SameBut _ (memory w) (memory w'))
  · intro w
    apply Memories.SameBut.refl
  · intro w w' w'' h h'
    apply h.trans h'
  · intro a w
    apply Memories.SameBut.of_eq memory_readByte
  · intro a value w ge lt
    apply (sameBut_writeByte (Prod.eta (writeByte target a value w)).symm).mono
    rintro d a ⟨rfl, rfl⟩
    use rfl, ge, lt

/-- After copying from one device to the other the target has the bytes of the source. -/
theorem byte_copyBytes {u : Unit} {k : Nat} (ne : source ≠ target)
    (ok : (copyBytes source target count read write w).1 = .ok u) (hk : k < count) :
  (memory (copyBytes source target count read write w).2).byte target (write + k) =
    (memory w).byte source (read + k)
  := by
  induction count generalizing read write w k with
  | zero => cases hk
  | succ count ih =>
      rw [copyBytes] at ok ⊢
      split at ok
      · cases ok
      · next byte w₁ h =>
          have value : (memory w).byte source read = byte := byte_of_readByte (by rw [h])
          split at ok
          · cases ok
          · next u' w₂ h₂ =>
              have written := byte_writeByte h₂
              have first := sameBut_writeByte h₂
              rw [memory_of_readByte h] at first
              cases k with
              | zero =>
                  rw [sameBut_copyBytes.byte]
                  · rw [Nat.add_zero, Nat.add_zero, written, value]
                  · rintro ⟨-, ge, -⟩
                    omega
              | succ k =>
                  have later := ih ok (Nat.lt_of_succ_lt_succ hk)
                  rw [Nat.add_right_comm, Nat.add_right_comm read] at later
                  rw [← Nat.add_assoc, ← Nat.add_assoc, later]
                  apply first.byte
                  rintro ⟨h, -⟩
                  apply ne h

/-! ### Pages -/

variable {size sourceFrame targetFrame : Nat}

theorem sameBut_clearFrame {answer : Except StoreError Unit}
    (h : clearFrame size device frame w = (answer, w')) :
  Memories.SameBut (Memories.Covers size (device, frame)) (memory w) (memory w')
  := by
  obtain rfl : (clearFrame size device frame w).2 = w' := congrArg Prod.snd h
  rw [clearFrame]
  split
  · apply Memories.SameBut.refl
  · next base h =>
      obtain ⟨-, rfl⟩ := frameBase_eq_ok_iff.mp h
      apply sameBut_clearBytes

/-- A frame that was cleared is zero. -/
theorem placeByte_clearFrame {u : Unit} {k : Nat}
    (h : clearFrame size device frame w = (.ok u, w')) (hk : k < size) :
  (memory w').placeByte size (device, frame) k = 0
  := by
  have ok : (clearFrame size device frame w).1 = .ok u := congrArg Prod.fst h
  obtain rfl : (clearFrame size device frame w).2 = w' := congrArg Prod.snd h
  rw [clearFrame] at ok ⊢
  split at ok
  · cases ok
  · next base h =>
      obtain ⟨-, rfl⟩ := frameBase_eq_ok_iff.mp h
      apply byte_clearBytes ok hk

theorem sameBut_copyPage {answer : Except StoreError Unit}
    (h : copyPage size source sourceFrame target targetFrame w = (answer, w')) :
  Memories.SameBut (Memories.Covers size (target, targetFrame)) (memory w) (memory w')
  := by
  obtain rfl : (copyPage size source sourceFrame target targetFrame w).2 = w'
    := congrArg Prod.snd h
  rw [copyPage]
  split
  · apply Memories.SameBut.refl
  · split
    · apply Memories.SameBut.refl
    · next base h =>
        obtain ⟨-, rfl⟩ := frameBase_eq_ok_iff.mp h
        apply sameBut_copyBytes

/-- A frame to which a page was copied from the other device has its bytes. -/
theorem placeByte_copyPage {u : Unit} {k : Nat} (ne : source ≠ target)
    (h : copyPage size source sourceFrame target targetFrame w = (.ok u, w')) (hk : k < size) :
  (memory w').placeByte size (target, targetFrame) k =
    (memory w).placeByte size (source, sourceFrame) k
  := by
  have ok : (copyPage size source sourceFrame target targetFrame w).1 = .ok u
    := congrArg Prod.fst h
  obtain rfl : (copyPage size source sourceFrame target targetFrame w).2 = w'
    := congrArg Prod.snd h
  rw [copyPage] at ok ⊢
  split at ok
  · cases ok
  · next sourceBase hs =>
      split at ok
      · cases ok
      · next targetBase ht =>
          obtain ⟨-, rfl⟩ := frameBase_eq_ok_iff.mp hs
          obtain ⟨-, rfl⟩ := frameBase_eq_ok_iff.mp ht
          apply byte_copyBytes ne ok hk

end VirtualMemory
