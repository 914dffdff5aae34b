import VirtualMemory.Proofs.Paging.Teardown
import VirtualMemory.Proofs.Space.Access
import VirtualMemory.Proofs.System.Run

/-!
# The course of one space

A new space is brought to its later states by commands, and by page faults and range mappings
that are asked for directly.  A setting tells in which worlds it may start, how others may change
the world between two steps and which stores may be brought to a step.

In every setting the page table and the resident pages agree.  If the space has the memories for
itself, each frame has one holder, and what is lost was not free at first or was in a store that
was not brought.
-/

namespace VirtualMemory

open MemoryBacked

variable {c : Config} {ω : Type} {out : Set Place} {stores : Stores} {first count : Nat}

namespace Paging

variable {s s' : Paging c × ω} {answer : Except Error Unit}

theorem PagesMapping.agreement [Backing ω] (h : PagesMapping stores first count s answer s')
    (fits : c.maxPages ≤ pageLimit) (a : s.1.Agreement) :
  s'.1.Agreement
  := by
  cases h with
  | nothing none => apply a
  | beyond some above => apply a
  | identity some below mode => apply a
  | paged some below mode progress => exact progress.agreement fits (by omega) nofun a

theorem PagesMapping.keeps [MemoryBacked ω] (h : PagesMapping stores first count s answer s')
    (fits : c.maxPages ≤ pageLimit) (g : Guarded out s) :
  Guarded out s' ∧ Keeps out s s'
  := by
  cases h with
  | nothing none => apply g.unmoved
  | beyond some above => apply g.unmoved
  | identity some below mode => apply g.unmoved
  | paged some below mode progress =>
      exact progress.keeps fits (by omega) nofun nofun nofun g

end Paging

/-- Memories with frames of the given size, some of which are free. -/
structure Memories.Framed (m : Memories) (size : Nat) : Prop where
  frameSize : ∀ device, (m device).frameSize = size
  capacity : ∀ device, (m device).frameCount ≤ device.capacity
  nodup : ∀ device, (m device).free.Nodup
  isFrame : ∀ x : Place, x.2 ∈ (m x.1).free → m.IsFrame x

/-- All frames of unused memories are free. -/
theorem Memories.Unused.framed {m : Memories} {size : Nat} (h : m.Unused size) :
  m.Framed size
  := by
  use h.frameSize, h.capacity
  · intro d
    rw [(h.free d).nodup_iff]
    exact List.nodup_range'
  · intro x free
    rw [(h.free x.1).mem_iff, List.mem_range'_1] at free
    rw [Memories.IsFrame]
    omega

/-- If no page has a place, the frames that are not free are outside. -/
theorem Memories.Framed.custody {m : Memories} {size : Nat} {κ : Type} {f : κ → Option Place}
    (h : m.Framed size) (unmapped : ∀ page, f page = none) :
  Custody {x | m.IsFrame x ∧ x.2 ∉ (m x.1).free} f size m
  := by
  use h.frameSize, h.capacity, h.nodup
  · intro o x held
    cases o with
    | pool => apply h.isFrame x held
    | page page => cases (unmapped page).symm.trans held
    | outside => apply held.1
  · intro x frame
    by_cases free : x.2 ∈ (m x.1).free
    · use .pool
      apply free
    · use .outside, frame, free
  · intro o o' x held held'
    cases o with
    | pool =>
        cases o' with
        | pool => rfl
        | page page => cases (unmapped page).symm.trans held'
        | outside => exact absurd held held'.2
    | page page => cases (unmapped page).symm.trans held
    | outside =>
        cases o' with
        | pool => exact absurd held' held.2
        | page page => cases (unmapped page).symm.trans held'
        | outside => rfl

namespace Space

/-- The surroundings of a space. -/
structure Setting (ω : Type) where
  /-- The worlds in which the space may be new. -/
  fresh : ω → Prop
  /-- The changes of the world between two steps. -/
  meanwhile : ω → ω → Prop
  /-- The stores that may be brought to a step. -/
  brings : Stores → Prop

/-- The setting in which anything may happen. -/
def Setting.any : Setting ω := ⟨fun _ => True, fun _ _ => True, fun _ => True⟩

/-- The setting in which a space has the memories for itself. -/
def Setting.alone [MemoryBacked ω] (fresh : Memories → Prop) (brings : Stores → Prop) :
    Setting ω where
  fresh w := fresh (memory w) ∧ ∀ device, (memory w device).size < Word.bound
  meanwhile w w' := memory w' = memory w
  brings := brings

/-- The states of a space, and of the world beside it, that are reached in a setting. -/
inductive Course [Backing ω] (setting : Setting ω) : Space c × ω → Prop
  | new {w : ω} (fresh : setting.fresh w) : Course setting (new c, w)
  | meanwhile {s : Space c} {w w' : ω} (course : Course setting (s, w))
      (change : setting.meanwhile w w') :
    Course setting (s, w')
  | command {s : Space c × ω} {stores : Stores} (course : Course setting s)
      (brought : setting.brings stores) (command : Command) :
    Course setting (command.run stores s).state
  | fault {s : Space c × ω} {stores : Stores} (course : Course setting s)
      (brought : setting.brings stores) (page : Nat) :
    Course setting (onPaging (Paging.resolve stores page) s).state
  | range {s : Space c × ω} {stores : Stores} (course : Course setting s)
      (brought : setting.brings stores) (first count : Nat) :
    Course setting (onPaging (Paging.mapRange stores first count) s).state

/-- Page table and resident pages agree in every setting. -/
theorem Course.agreement [Backing ω] {setting : Setting ω} {s : Space c × ω}
    (course : Course setting s) (fits : c.maxPages ≤ pageLimit) :
  s.1.paging.Agreement
  := by
  induction course with
  | new fresh => apply Paging.agreement_empty
  | meanwhile course change ih => apply ih
  | command course brought command ih => apply Command.agreement_run fits ih
  | fault course brought page ih => apply Paging.resolve_ends.agreement fits ih
  | range course brought first count ih => apply Paging.mapRange_ends.agreement fits ih

/-! ### A space that is alone -/

section Alone

variable [MemoryBacked ω] {fresh : Memories → Prop} {brings : Stores → Prop} {s : Space c × ω}

/-- A command keeps custody and the sizes of the memories; a release without a store loses what
is held there. -/
theorem guarded_run (suits : c.Suits c.pageSize) {size : Device → Nat}
    (g : Paging.Guarded out (s.1.paging, s.2))
    (size_eq : ∀ device, (memory s.2 device).size = size device) (command : Command) :
  ∃ lost : Set Place, (∀ x ∈ lost, stores.has x.1 = false) ∧
    Paging.Guarded (out ∪ lost)
      ((command.run stores s).state.1.paging, (command.run stores s).state.2) ∧
    ∀ device, (memory (command.run stores s).state.2 device).size = size device
  := by
  by_cases release : command = .release
  · subst release
    have ends : Paging.Release stores (s.1.paging, s.2) _ _ := Paging.releaseAll_ends
    obtain ⟨lost, hlost, g', -, bytes⟩ := ends.keeps suits.paged g
    rw [Command.state_run_release]
    use lost
    constructor
    · intro x mem
      apply (hlost x mem).1
    use g'
    intro d
    rw [← size_eq]
    exact congrArg Array.size (bytes d)
  · have kept := ((robust_guarded stores suits.fits).run release).state s ⟨g, size_eq⟩
    use ∅
    rw [Set.union_empty]
    constructor
    · intro x mem
      apply absurd mem (Set.notMem_empty x)
    · apply kept

/-- Each frame has one holder, be it that it was lost: what is lost was not free at first, or
was in a store that was not brought. -/
theorem Course.exists_guarded (course : Course (.alone fresh brings) s) (held : Set Place)
    (start : ∀ m, fresh m → ∃ lost ⊆ held, Custody lost (fun _ : Nat => none) c.pageSize m)
    (missing : ∀ stores, brings stores → ∀ x : Place, stores.has x.1 = false → x ∈ held)
    (suits : c.Suits c.pageSize) :
  ∃ lost ⊆ held, Paging.Guarded lost (s.1.paging, s.2) ∧
    ∀ device, (memory s.2 device).size < Word.bound
  := by
  induction course with
  | @new w first =>
      obtain ⟨lost, le, custody⟩ := start (memory w) first.1
      use lost, le
      constructor
      · use Paging.agreement_empty
        rw [← Paging.places_empty (c := c)] at custody
        apply custody
      · apply first.2
  | meanwhile course change ih =>
      obtain ⟨lost, le, g, words⟩ := ih
      have same : memory _ = memory _ := change
      use lost, le, g.of_memory same
      intro d
      rw [same]
      apply words
  | command course brought command ih =>
      obtain ⟨lost, le, g, words⟩ := ih
      obtain ⟨lost', hlost', g', size_eq⟩ := guarded_run suits g (fun _ => rfl) command
      use lost ∪ lost'
      constructor
      · apply Set.union_subset le
        intro x mem
        apply missing _ brought x (hlost' x mem)
      use g'
      intro d
      rw [size_eq]
      apply words
  | @fault s stores course brought page ih =>
      obtain ⟨lost, le, g, words⟩ := ih
      have ends : Paging.Resolution stores page (s.1.paging, s.2) _ _ := Paging.resolve_ends
      obtain ⟨g', kept⟩ := ends.keeps suits.fits g
      use lost, le, g'
      intro d
      apply lt_of_eq_of_lt (kept.size_eq d) (words d)
  | @range s stores course brought first count ih =>
      obtain ⟨lost, le, g, words⟩ := ih
      have ends : Paging.PagesMapping stores first count (s.1.paging, s.2) _ _
        := Paging.mapRange_ends
      obtain ⟨g', kept⟩ := ends.keeps suits.fits g
      use lost, le, g'
      intro d
      apply lt_of_eq_of_lt (kept.size_eq d) (words d)

/-- Nothing is lost if all frames are free at first and both stores are brought to every step. -/
theorem Course.guarded (course : Course (.alone (·.Unused c.pageSize) (· = {})) s)
    (suits : c.Suits c.pageSize) :
  Paging.Guarded ∅ (s.1.paging, s.2) ∧ ∀ device, (memory s.2 device).size < Word.bound
  := by
  obtain ⟨lost, le, g, words⟩ := course.exists_guarded ∅
    (fun m unused => ⟨∅, Set.Subset.rfl, unused.custody fun _ => rfl⟩)
    (by
      rintro stores rfl x missing
      cases Stores.has_default.symm.trans missing)
    suits
  rw [Set.subset_empty_iff.mp le] at g
  use g, words

end Alone

end Space

end VirtualMemory
