import VirtualMemory.Store.Backing
import VirtualMemory.Word

/-!
# Runs of bytes

Reading, clearing and copying byte after byte, and the same for a whole page.  Each run stops
at the first access that a store refuses; the bytes before it are done.  The address of a frame
must leave room for a whole page below the bound on words.
-/

namespace VirtualMemory

open Backing

variable {ω : Type} [Backing ω]

/-- Reads `count` bytes from `address` on. -/
def readBytes (device : Device) : (count address : Nat) → Access ω (List UInt8)
  | 0, _, w => (.ok [], w)
  | count + 1, address, w =>
    match readByte device address w with
    | (.error e, w) => (.error e, w)
    | (.ok byte, w) =>
      match readBytes device count (address + 1) w with
      | (.error e, w) => (.error e, w)
      | (.ok bytes, w) => (.ok (byte :: bytes), w)

/-- Writes zero to `count` bytes from `address` on. -/
def clearBytes (device : Device) : (count address : Nat) → Access ω Unit
  | 0, _, w => (.ok (), w)
  | count + 1, address, w =>
    match writeByte device address 0 w with
    | (.error e, w) => (.error e, w)
    | (.ok _, w) => clearBytes device count (address + 1) w

/-- Copies `count` bytes from one address on to another, each byte before the next one is
read. -/
def copyBytes (source target : Device) : (count read write : Nat) → Access ω Unit
  | 0, _, _, w => (.ok (), w)
  | count + 1, read, write, w =>
    match readByte source read w with
    | (.error e, w) => (.error e, w)
    | (.ok byte, w) =>
      match writeByte target write byte w with
      | (.error e, w) => (.error e, w)
      | (.ok _, w) => copyBytes source target count (read + 1) (write + 1) w

/-- The address of the first byte of a frame, if the addresses of its page are words. -/
def frameBase (pageSize frame : Nat) : Except StoreError Nat :=
  if frame * pageSize + pageSize < Word.bound then .ok (frame * pageSize)
  else .error (.outOfRange frame)

/-- Writes zeros over a frame. -/
def clearFrame (pageSize : Nat) (device : Device) (frame : Nat) : Access ω Unit := fun w =>
  match frameBase pageSize frame with
  | .error e => (.error e, w)
  | .ok base => clearBytes device pageSize base w

/-- Copies a page from one frame to another, possibly of the other store. -/
def copyPage (pageSize : Nat) (source : Device) (sourceFrame : Nat) (target : Device)
    (targetFrame : Nat) : Access ω Unit := fun w =>
  match frameBase pageSize sourceFrame with
  | .error e => (.error e, w)
  | .ok sourceBase =>
    match frameBase pageSize targetFrame with
    | .error e => (.error e, w)
    | .ok targetBase => copyBytes source target pageSize sourceBase targetBase w

theorem frameBase_eq_ok_iff {pageSize frame base : Nat} :
  frameBase pageSize frame = .ok base ↔
    frame * pageSize + pageSize < Word.bound ∧ base = frame * pageSize
  := by
  unfold frameBase
  split
  · next h => simp [h, eq_comm]
  · next h => simp [h]

/-- The addresses of a frame that was cleared are words. -/
theorem room_of_clearFrame {pageSize frame : Nat} {device : Device} {w w' : ω}
    (cleared : clearFrame pageSize device frame w = (.ok (), w')) :
  frame * pageSize + pageSize < Word.bound
  := by
  rw [clearFrame] at cleared
  split at cleared
  · cases cleared
  · next base ok => apply (frameBase_eq_ok_iff.mp ok).1

/-- The addresses of a frame to which a page was copied are words. -/
theorem room_of_copyPage {pageSize sourceFrame targetFrame : Nat} {source target : Device}
    {w w' : ω} (copied : copyPage pageSize source sourceFrame target targetFrame w = (.ok (), w')) :
  targetFrame * pageSize + pageSize < Word.bound
  := by
  rw [copyPage] at copied
  split at copied
  · cases copied
  · split at copied
    · cases copied
    · next base ok => apply (frameBase_eq_ok_iff.mp ok).1

end VirtualMemory
