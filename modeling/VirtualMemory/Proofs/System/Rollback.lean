import VirtualMemory.Proofs.Paging.Rollback
import VirtualMemory.Proofs.System.Custody

/-!
# Range mappings that fail in a run

After any run of a system, with any stores brought to its commands, whatever requests the stores
refuse, a range mapping for one of the spaces that fails leaves the pages as they were.
-/

namespace VirtualMemory

open MemoryBacked

variable {ι : Type} [DecidableEq ι] {configs : ι → Config} {ω : Type} [MemoryBacked ω]
variable {start s : System configs ω} {size : Nat} {history : List (Record ι)}

/-- After every run a range mapping that fails is rolled back. -/
theorem Run.mapRange_rolledBack {allowed : Stores → Command → Prop}
    (run : Run allowed start history s) (initial : start.Initial size) {w : ω}
    (same : memory w = memory s.world) (i : ι) (stores : Stores) (first count : Nat) {e : Error}
    (failed : (Paging.mapRange stores first count ((s.spaces i).paging, w)).answer = .error e) :
  Paging.RolledBack first count ((s.spaces i).paging, w)
    (Paging.mapRange stores first count ((s.spaces i).paging, w)).state
  := by
  obtain ⟨lost, g⟩ := run.exists_guarded initial
  have focused := (g.withWorld same).focus i (initial.suits i)
  have ends : Paging.PagesMapping stores first count ((s.spaces i).paging, w) _ _
    := Paging.mapRange_ends
  rw [failed] at ends
  apply ends.rolledBack (initial.suits i).fits focused

/-- Eight pages of two bytes. -/
def Config.eightPages : Config := { Config.small with maxPages := 8 }

/-- Two frames, and four slots of which the last cannot be written. -/
def HonestMachine.cramped : HonestMachine where
  machine :=
    ⟨⟨⟨#[9, 9, 9, 9, 9, 9], [1, 2], 2⟩, {}⟩,
      ⟨⟨#[7, 7, 7, 7, 7, 7, 7, 7, 7, 7], [1, 2, 3, 4], 2⟩, { badWrites := [8] }⟩⟩
  honest := by decide

/-- One space on the cramped machine. -/
def System.cramped : System (fun _ : Unit => Config.eightPages) HonestMachine :=
  ⟨fun _ => Space.new Config.eightPages, HonestMachine.cramped⟩

/-- The space maps two pages and writes to one of them. -/
def System.crampedScript : List (Unit × Stores × Command) :=
  [((), {}, .allocate 0 1), ((), {}, .write 0 0 42)]

/-- To map four more pages on the cramped machine, first the two older pages are evicted and then
one of the new ones; the eviction of the next fails, and all is rolled back. -/
theorem Run.mapRange_rolledBack_cramped :
  System.cramped.Initial 2 ∧
  (Paging.mapRange {} 0 6
    (((System.cramped.play System.crampedScript).2.spaces ()).paging,
      (System.cramped.play System.crampedScript).2.world)).answer =
    .error (.store (.outOfRange 8)) ∧
  Paging.RolledBack 0 6
    (((System.cramped.play System.crampedScript).2.spaces ()).paging,
      (System.cramped.play System.crampedScript).2.world)
    (Paging.mapRange {} 0 6
      (((System.cramped.play System.crampedScript).2.spaces ()).paging,
        (System.cramped.play System.crampedScript).2.world)).state
  := by
  have initial : System.cramped.Initial 2 := by
    constructor
    · decide
    · intro i
      rfl
    · decide
  have failed : (Paging.mapRange {} 0 6
      (((System.cramped.play System.crampedScript).2.spaces ()).paging,
        (System.cramped.play System.crampedScript).2.world)).answer =
      .error (.store (.outOfRange 8))
    := by decide +kernel
  have run : Run (fun _ _ => True) System.cramped (System.cramped.play System.crampedScript).1
      (System.cramped.play System.crampedScript).2
    := Run.play fun _ _ => trivial
  use initial, failed
  apply run.mapRange_rolledBack initial rfl () {} 0 6 failed

end VirtualMemory
