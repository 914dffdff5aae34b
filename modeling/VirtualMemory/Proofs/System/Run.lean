import VirtualMemory.Proofs.Paging.Teardown
import VirtualMemory.Proofs.Space.Access
import VirtualMemory.Proofs.Store.Worlds

/-!
# Address spaces that share their stores

A system has any number of address spaces, each with its own configuration, beside one world
with the stores.  A run of a system is a sequence of commands to its spaces in any order.  Each
command comes with the stores that its caller brings, and the world may be changed before it,
except for the memories; so the stores may refuse different requests at each step.  The run
records what was asked and answered.

Seen from one of the spaces, what the others hold, and what is lost, is outside.
-/

namespace VirtualMemory

variable {ι : Type} {configs : ι → Config} {ω : Type}

/-! ### Inside and outside -/

/-- The places of the pages of all spaces. -/
def joint (f : ι → Nat → Option Place) (page : ι × Nat) : Option Place := f page.1 page.2

/-- What is outside of one of the spaces: the places of the other spaces, and what is lost. -/
def elsewhere (lost : Set Place) (f : ι → Nat → Option Place) (i : ι) : Set Place :=
  lost ∪ {x | ∃ j, j ≠ i ∧ ∃ page, f j page = some x}

/-- What is outside of a space stays there when the space changes, but for what it loses. -/
theorem elsewhere_update [DecidableEq ι] {lost lost' : Set Place} {f : ι → Nat → Option Place}
    {g : Nat → Option Place} {i : ι} :
  elsewhere (lost ∪ lost') (Function.update f i g) i = elsewhere lost f i ∪ lost'
  := by
  have others : {x | ∃ j, j ≠ i ∧ ∃ page, Function.update f i g j page = some x} =
      {x | ∃ j, j ≠ i ∧ ∃ page, f j page = some x}
    := by
    ext x
    apply exists_congr
    intro j
    apply and_congr_right
    intro ne
    rw [Function.update_of_ne ne]
  rw [elsewhere, elsewhere, others, Set.union_right_comm]

/-- What a space takes a holder for: a page of another space is outside. -/
def Holder.seenFrom [DecidableEq ι] (i : ι) : Holder (ι × Nat) → Holder Nat
  | .pool => .pool
  | .page (j, n) => if j = i then .page n else .outside
  | .outside => .outside

namespace Holder

variable [DecidableEq ι] {o : Holder (ι × Nat)} {i : ι} {n : Nat}

theorem seenFrom_eq_pool :
  o.seenFrom i = .pool ↔ o = .pool
  := by
  cases o with
  | pool => simp [seenFrom]
  | page page =>
      rw [seenFrom]
      split
      · simp
      · simp
  | outside => simp [seenFrom]

theorem seenFrom_eq_page :
  o.seenFrom i = .page n ↔ o = .page (i, n)
  := by
  cases o with
  | pool => simp [seenFrom]
  | page page =>
      obtain ⟨j, n'⟩ := page
      rw [seenFrom]
      split
      · next eq => simp [eq]
      · next ne => simp [ne]
  | outside => simp [seenFrom]

end Holder

namespace Custody

variable {lost lost' : Set Place} {f : ι → Nat → Option Place} {g : Nat → Option Place}
variable {size : Nat} {m m' : Memories} {i : ι} {x : Place}

/-- Whoever holds a place is seen to hold it. -/
theorem holds_seenFrom [DecidableEq ι] {o : Holder (ι × Nat)}
    (held : Holds lost (joint f) m o x) :
  Holds (elsewhere lost f i) (f i) m (o.seenFrom i) x
  := by
  cases o with
  | pool => apply held
  | page page =>
      obtain ⟨j, page⟩ := page
      rw [Holder.seenFrom]
      split
      · next eq =>
          subst eq
          apply held
      · next ne => exact Or.inr ⟨j, ne, page, held⟩
  | outside => exact Or.inl held

/-- Whoever is seen to hold a place does. -/
theorem exists_of_holds [DecidableEq ι] {o : Holder Nat}
    (held : Holds (elsewhere lost f i) (f i) m o x) :
  ∃ o', Holds lost (joint f) m o' x ∧ o'.seenFrom i = o
  := by
  cases o with
  | pool =>
      use .pool, held
      rfl
  | page page =>
      use .page (i, page), held
      apply if_pos rfl
  | outside =>
      rcases held with mem | ⟨j, ne, page, place⟩
      · use .outside, mem
        rfl
      · use .page (j, page), place
        apply if_neg ne

/-- Custody as one of the spaces sees it. -/
theorem focus (h : Custody lost (joint f) size m) (i : ι) :
  Custody (elsewhere lost f i) (f i) size m
  := by
  classical
  use h.frameSize, h.capacity, h.nodup
  · intro o x held
    obtain ⟨o', held', -⟩ := exists_of_holds held
    apply h.isFrame o' x held'
  · intro x frame
    obtain ⟨o, held⟩ := h.exists_holder x frame
    apply Exists.intro
    apply holds_seenFrom held
  · intro o₁ o₂ x held₁ held₂
    obtain ⟨o₁', held₁', rfl⟩ := exists_of_holds held₁
    obtain ⟨o₂', held₂', rfl⟩ := exists_of_holds held₂
    rw [h.unique o₁' o₂' x held₁' held₂']

/-- Whoever is outside after a change of a space held the place before, or the space lost it. -/
theorem holds_before [DecidableEq ι] {o : Holder (ι × Nat)}
    (mine : ∀ x ∈ lost', ∃ page, f i page = some x)
    (held : Holds (lost ∪ lost') (joint (Function.update f i g)) m' o x)
    (outside : o.seenFrom i = .outside) :
  Holds lost (joint f) m o x ∨
    (o = .outside ∧ ∃ page, Holds lost (joint f) m (.page (i, page)) x)
  := by
  cases o with
  | pool => cases outside
  | page page =>
      obtain ⟨j, page⟩ := page
      left
      have ne : j ≠ i := by
        rintro rfl
        rw [Holder.seenFrom, if_pos rfl] at outside
        cases outside
      rw [Holds, joint, Function.update_of_ne ne] at held
      apply held
  | outside =>
      rcases held with mem | mem
      · exact Or.inl mem
      · exact Or.inr ⟨rfl, mine x mem⟩

/-- Custody for all after a change that one of the spaces sees.  Seen from there, no page of its own
is outside, and two holders outside were the same before. -/
theorem unfocus [DecidableEq ι] (old : Custody lost (joint f) size m)
    (new : Custody (elsewhere lost f i ∪ lost') g size m')
    (mine : ∀ x ∈ lost', ∃ page, f i page = some x) :
  Custody (lost ∪ lost') (joint (Function.update f i g)) size m'
  := by
  have seen : Custody (elsewhere (lost ∪ lost') (Function.update f i g) i)
      (Function.update f i g i) size m'
    := by
    rw [elsewhere_update, Function.update_self]
    apply new
  have page_ne (o : Holder (ι × Nat)) (page : Nat) (outside : o.seenFrom i = .outside) :
      o ≠ .page (i, page)
    := by
    intro eq
    rw [Holder.seenFrom_eq_page.mpr eq] at outside
    cases outside
  use seen.frameSize, seen.capacity, seen.nodup
  · intro o x held
    apply seen.isFrame _ x (holds_seenFrom held)
  · intro x frame
    obtain ⟨o, held⟩ := seen.exists_holder x frame
    obtain ⟨o', held', -⟩ := exists_of_holds held
    use o'
  · intro o₁ o₂ x held₁ held₂
    have same := seen.unique _ _ x (holds_seenFrom held₁) (holds_seenFrom held₂)
    rcases seen₁ : o₁.seenFrom i with - | page | -
    · rw [Holder.seenFrom_eq_pool.mp seen₁, Holder.seenFrom_eq_pool.mp (same.symm.trans seen₁)]
    · rw [Holder.seenFrom_eq_page.mp seen₁, Holder.seenFrom_eq_page.mp (same.symm.trans seen₁)]
    · have seen₂ := same.symm.trans seen₁
      rcases holds_before mine held₁ seen₁ with old₁ | ⟨rfl, page₁, old₁⟩
      · rcases holds_before mine held₂ seen₂ with old₂ | ⟨rfl, page₂, old₂⟩
        · apply old.unique _ _ x old₁ old₂
        · exact absurd (old.unique _ _ x old₁ old₂) (page_ne o₁ page₂ seen₁)
      · rcases holds_before mine held₂ seen₂ with old₂ | ⟨rfl, page₂, old₂⟩
        · exact absurd (old.unique _ _ x old₂ old₁) (page_ne o₂ page₁ seen₂)
        · rfl

end Custody

/-! ### Systems and their runs -/

/-- Address spaces beside the world with their stores. -/
structure System (configs : ι → Config) (ω : Type) where
  spaces : (i : ι) → Space (configs i)
  world : ω

/-- A command that was carried out, with its answer. -/
structure Record (ι : Type) where
  /-- The space that got the command. -/
  space : ι
  command : Command
  /-- The virtual address that the command accesses. -/
  target : Option Nat
  answer : Except Error Answer

namespace System

variable [DecidableEq ι] [Backing ω]

/-- What a command to one of the spaces leaves behind. -/
def act (s : System configs ω) (i : ι) (stores : Stores) (command : Command) :
    System configs ω :=
  let r := command.run stores (s.spaces i, s.world)
  ⟨Function.update s.spaces i r.state.1, r.state.2⟩

/-- The record of a command to one of the spaces. -/
def record (s : System configs ω) (i : ι) (stores : Stores) (command : Command) : Record ι where
  space := i
  command := command
  target := command.target? (s.spaces i).handles
  answer := (command.run stores (s.spaces i, s.world)).answer

/-- The system with another world. -/
def withWorld (s : System configs ω) (w : ω) : System configs ω := { s with world := w }

end System

open MemoryBacked

variable [DecidableEq ι] [MemoryBacked ω]

/-- The runs from a start, with their records, last one first, and the systems they lead to;
`allowed` tells which commands are given with which stores. -/
inductive Run (allowed : Stores → Command → Prop) (start : System configs ω) :
    List (Record ι) → System configs ω → Prop
  | start : Run allowed start [] start
  | step {history : List (Record ι)} {s : System configs ω} (run : Run allowed start history s)
      (w : ω) (same : memory w = memory s.world) (i : ι) (stores : Stores) (command : Command)
      (fits : allowed stores command) :
    Run allowed start ((s.withWorld w).record i stores command :: history)
      ((s.withWorld w).act i stores command)

/-- The record and the system after a list of commands, without changes of the world between
them. -/
def System.play (s : System configs ω) (script : List (ι × Stores × Command)) :
    List (Record ι) × System configs ω :=
  script.foldl
    (fun (history, s) (i, stores, command) =>
      (s.record i stores command :: history, s.act i stores command))
    ([], s)

/-- Playing a list of commands is a run. -/
theorem Run.play {allowed : Stores → Command → Prop} {start : System configs ω}
    {script : List (ι × Stores × Command)}
    (fits : ∀ step ∈ script, allowed step.2.1 step.2.2) :
  Run allowed start (start.play script).1 (start.play script).2
  := by
  have extend (history : List (Record ι)) (s : System configs ω)
      (run : Run allowed start history s) :
      Run allowed start
        (script.foldl (fun (history, s) (i, stores, command) =>
          (s.record i stores command :: history, s.act i stores command)) (history, s)).1
        (script.foldl (fun (history, s) (i, stores, command) =>
          (s.record i stores command :: history, s.act i stores command)) (history, s)).2
    := by
    induction script generalizing history s with
    | nil => apply run
    | cons step rest ih =>
        apply ih (fun step mem => fits step (List.mem_cons_of_mem _ mem))
        exact run.step s.world rfl step.1 step.2.1 step.2.2 (fits step List.mem_cons_self)
  apply extend [] start Run.start

/-- Configurations in paged mode for stores with frames of the given size. -/
@[mk_iff]
structure Config.Suits (c : Config) (size : Nat) : Prop where
  valid : c.validate = .ok ()
  paged : c.mode = .paged
  small : c.maxPages ≤ 2 ^ 40
  pageSize : c.pageSize = size

instance {c : Config} {size : Nat} : Decidable (c.Suits size) :=
  decidable_of_iff' _ (Config.suits_iff c size)

theorem Config.Suits.fits {c : Config} {size : Nat} (h : c.Suits size) :
  c.maxPages ≤ pageLimit
  := le_trans h.small (by decide)

/-- Memories with frames of the given size, all free, whatever their bytes are. -/
@[mk_iff]
structure Memories.Unused (m : Memories) (size : Nat) : Prop where
  frameSize : ∀ device, (m device).frameSize = size
  capacity : ∀ device, (m device).frameCount ≤ device.capacity
  free : ∀ device, (m device).free.Perm (List.range' 1 ((m device).frameCount - 1))

instance {m : Memories} {size : Nat} : Decidable (m.Unused size) :=
  decidable_of_iff' _ (Memories.unused_iff m size)

/-- If no page has a place, every frame of unused memories is free. -/
theorem Memories.Unused.custody {m : Memories} {size : Nat} {κ : Type} {f : κ → Option Place}
    (h : m.Unused size) (unmapped : ∀ page, f page = none) :
  Custody ∅ f size m
  := by
  have free (x : Place) : x.2 ∈ (m x.1).free ↔ m.IsFrame x := by
    rw [(h.free x.1).mem_iff, List.mem_range'_1, Memories.IsFrame]
    omega
  have pool (o : Holder κ) (x : Place) (held : Holds ∅ f m o x) : o = .pool := by
    cases o with
    | pool => rfl
    | page page =>
        rw [Holds, unmapped] at held
        cases held
    | outside => cases held
  use h.frameSize, h.capacity
  · intro d
    apply (h.free d).nodup_iff.mpr
    exact List.nodup_range'
  · intro o x held
    obtain rfl := pool o x held
    apply (free x).mp held
  · intro x hx
    use .pool
    apply (free x).mpr hx
  · intro o o' x held held'
    rw [pool o x held, pool o' x held']

/-- Systems of new spaces with unused stores. -/
structure System.Initial (s : System configs ω) (size : Nat) : Prop where
  suits : ∀ i, (configs i).Suits size
  spaces : ∀ i, s.spaces i = Space.new (configs i)
  unused : (memory s.world).Unused size

/-! ### A small system -/

/-- Four pages of two bytes. -/
def Config.small : Config where
  pageSize := 2
  maxPages := 4
  handleCapacity := 2
  initialHeapSize := 0

/-- Three frames, and four slots of which the first cannot be written. -/
def HonestMachine.small : HonestMachine where
  machine :=
    ⟨⟨⟨#[9, 9, 9, 9, 9, 9, 9, 9], [1, 2, 3], 2⟩, {}⟩,
      ⟨⟨#[7, 7, 7, 7, 7, 7, 7, 7, 7, 7], [1, 2, 3, 4], 2⟩, { badWrites := [2] }⟩⟩
  honest := by decide

/-- Two spaces that share the small machine. -/
def System.small : System (fun _ : Bool => Config.small) HonestMachine :=
  ⟨fun _ => Space.new Config.small, HonestMachine.small⟩

theorem System.small_initial :
  System.small.Initial 2
  := by
  constructor
  · decide
  · intro i
    rfl
  · decide

/-- Commands for the small system, of which each one that evicts a page to the first slot fails
and is given again; one lacks the swap store. -/
def System.smallScript : List (Bool × Stores × Command) :=
  [(true, {}, .allocate 0 1), (false, {}, .allocate 0 3), (false, {}, .allocate 0 3),
    (false, {}, .write 0 0 42), (true, {}, .write 0 0 13), (false, {}, .read 0 2),
    (false, {}, .read 0 2), (false, { swap := false }, .read 0 0), (false, {}, .serve (.load 0)),
    (false, {}, .serve (.load 0))]

end VirtualMemory
