import VirtualMemory.Proofs.Heap.Separation
import VirtualMemory.Proofs.Space.Direct
import VirtualMemory.Proofs.System.Contents

/-!
# A written byte stays

A space that is alone beside its stores, in either mode.  The byte that was written through a
handle at an offset is read there until the handle is freed or bound again, or another byte is
written there through it.

Two invariants carry this.  The regions of different handles share no address, however they
were split, freed and bound again, so what is written through other handles goes elsewhere.  And
the byte behind an address is the one that was last written there, however often its page is
evicted and whatever fails meanwhile.
-/

namespace VirtualMemory

open MemoryBacked Command Space

/-! ### Commands that spare a byte -/

namespace Command

/-- Whether a command uses handles, adds an area or lets one grow. -/
def IsPlain : Command → Bool
  | allocate .. | free .. | read .. | write .. | addArea .. | serve (.growArea ..) => true
  | serve _ | release => false

/-- Whether a command frees a handle, binds it or writes at an offset of its region. -/
def Touches (handle offset : Nat) : Command → Bool
  | allocate other _ | free other => other = handle
  | write other offset' _ => other = handle ∧ offset' = offset
  | _ => false

end Command

instance decidableFails {ε α : Type} (answer : Except ε α) :
    Decidable (∃ e, answer = .error e) :=
  match answer with
  | .ok _ => isFalse fun ⟨_, h⟩ => nomatch h
  | .error e => isTrue ⟨e, rfl⟩

/-- Whether a command spared what a handle has at an offset: if it was to touch it, it failed. -/
def Record.Spares {ι : Type} (handle offset : Nat) (r : Record ι) : Prop :=
  r.command.IsPlain = true ∧
    (r.command.Touches handle offset = true → ∃ e, r.answer = .error e)

instance {ι : Type} (handle offset : Nat) (r : Record ι) : Decidable (r.Spares handle offset) :=
  inferInstanceAs (Decidable (_ ∧ (_ → _)))

/-! ### Configurations -/

/-- Valid configurations whose addresses end at `2 ^ 63` or before. -/
structure Config.Moderate (c : Config) : Prop where
  valid : c.validate = .ok ()
  small : c.maxPages ≤ 2 ^ 40
  bounded : c.maxPages * c.pageSize ≤ 2 ^ 63

namespace Config.Moderate

variable {c : Config}

theorem fits (h : c.Moderate) :
  c.maxPages ≤ pageLimit
  := le_trans h.small (by decide)

theorem suits (h : c.Moderate) (mode : c.mode = .paged) :
  c.Suits c.pageSize
  := ⟨h.valid, mode, h.small, rfl⟩

end Config.Moderate

/-- An offset before the end of a region leads into it. -/
theorem Region.add_mem {r : Region} {offset : Nat} (inside : offset < r.length) :
  r.start + offset ∈ r
  := by
  rw [length] at inside
  rw [mem_iff]
  omega

variable {c : Config} {ω : Type} [MemoryBacked ω] {start s : System (fun _ : Unit => c) ω}
variable {stores : Stores} {command : Command} {address handle offset : Nat} {value : UInt8}
variable {answer : Answer}

/-- A write that succeeds is within the region of its handle. -/
theorem exists_region_of_write {s : Space c × ω}
    (ok : ((write handle offset value).run stores s).answer = .ok answer) :
  ∃ r, s.1.handles.get handle = .ok r ∧ offset < r.length
  := by
  have ends : ((write handle offset value).run stores).Ends s
      (fun _ _ => ∃ r, s.1.handles.get handle = .ok r ∧ offset < r.length) (fun _ _ => True)
    := by
    simp only [Command.run, Space.write, Op.ends_map, Op.ends_bind, ends_locate]
    rcases s.1.handles.get handle with e | r
    · trivial
    · dsimp only
      split
      · trivial
      · next inside =>
          simp only [ends_reportAfter, Op.ends_pure]
          rw [Op.Ends]
          split
          · use r
            constructor
            · rfl
            · apply Nat.lt_of_not_le inside
          · trivial
  apply ends.of_ok ok

namespace System

/-- One new space beside unused stores with frames of its page size. -/
structure Alone (s : System (fun _ : Unit => c) ω) : Prop where
  config : c.Moderate
  space : s.spaces () = Space.new c
  unused : (memory s.world).Unused c.pageSize

/-- The byte behind a virtual address, in the place of its page or in the main memory. -/
def held (s : System (fun _ : Unit => c) ω) (address : Nat) : UInt8 :=
  match c.mode with
  | .paged => s.byteAt () address
  | .identity => (memory s.world).byte .ram address

/-- A handle has a byte at an offset of its region. -/
def Has (s : System (fun _ : Unit => c) ω) (handle offset : Nat) (value : UInt8) : Prop :=
  ∃ r, (s.spaces ()).handles.get handle = .ok r ∧ offset < r.length ∧
    s.held (r.start + offset) = value

/-- The regions are apart, page table and resident pages agree, and in paged mode each frame has
one holder. -/
structure Sound (s : System (fun _ : Unit => c) ω) : Prop where
  separated : ∃ fence heap others, Separated fence [] (s.spaces ()) heap others
  agreement : (s.spaces ()).paging.Agreement
  guarded : c.mode = .paged → ∃ lost, s.Guarded lost c.pageSize

theorem Alone.initial (h : s.Alone) (mode : c.mode = .paged) :
  s.Initial c.pageSize
  := by
  constructor
  · intro i
    apply h.config.suits mode
  · intro i
    apply h.space
  · apply h.unused

theorem Alone.sound (h : s.Alone) :
  s.Sound
  := by
  constructor
  · obtain ⟨heap, separated⟩ := separated_new (c := c)
    rw [h.space]
    apply Exists.intro
    use heap, []
  · rw [h.space]
    apply Paging.agreement_empty
  · intro mode
    use ∅
    apply (h.initial mode).guarded

/-- The space after a command. -/
theorem spaces_act :
  (s.act () stores command).spaces () = (command.run stores (s.spaces (), s.world)).state.1
  := by simp only [act, Function.update_self]

/-! ### Changes of the world that keep the memories -/

section World

variable {w : ω} (same : memory w = memory s.world)
include same

theorem Sound.withWorld (h : s.Sound) :
  (s.withWorld w).Sound
  := by
  use h.separated, h.agreement
  intro mode
  obtain ⟨lost, g⟩ := h.guarded mode
  use lost
  apply g.withWorld same

theorem held_withWorld :
  (s.withWorld w).held address = s.held address
  := by
  rw [held, held, byteAt, byteAt, withWorld, same]
  rfl

theorem Has.withWorld (has : s.Has handle offset value) :
  (s.withWorld w).Has handle offset value
  := by
  obtain ⟨r, found, inside, byte⟩ := has
  use r, found, inside
  rw [held_withWorld same]
  apply byte

end World

/-! ### One command -/

namespace Sound

theorem inOrder (h : s.Sound) :
  (s.spaces ()).InOrder
  := by
  obtain ⟨fence, heap, others, separated⟩ := h.separated
  constructor
  · use heap, others
    apply separated.hasHeap
  · apply separated.capacity

theorem act (h : s.Sound) (config : c.Moderate) :
  (s.act () stores command).Sound
  := by
  constructor
  · obtain ⟨fence, heap, others, separated⟩ := h.separated
    rw [spaces_act]
    exact separated.run (s := (s.spaces (), s.world)) config.valid config.bounded h.agreement
  · rw [spaces_act]
    exact agreement_run config.fits h.agreement
  · intro mode
    obtain ⟨lost, g⟩ := h.guarded mode
    obtain ⟨lost', -, g', -⟩ := g.act (config.suits mode) stores command
    apply Exists.intro
    apply g'

/-- The byte behind an address is another one only if a command wrote there. -/
theorem held_act (h : s.Sound) (config : c.Moderate) (ne : command ≠ .release)
    (allowed : ∀ frame slot, command ≠ .serve (.copyToSwap frame slot)) :
  (s.act () stores command).held address =
    (s.record () stores command).after () address (s.held address)
  := by
  rcases mode : c.mode with - | -
  · obtain ⟨lost, g⟩ := h.guarded mode
    simp only [held, mode]
    exact g.byteAt_act (fun _ => config.suits mode) allowed address
  · have ends := ends_run_identity stores mode config.valid config.bounded ne allowed
      (s := (s.spaces (), s.world))
    simp only [held, mode]
    rw [Op.Ends] at ends
    split at ends
    · next ok =>
        simp only [Record.after, Record.written?, record, ok, if_neg ne]
        apply ends address
    · next error =>
        have silent : (s.record () stores command).written? = none := by
          simp only [Record.written?, record, error]
        rw [Record.after_of_silent ne silent, System.act, ends]

/-- What is read is the byte behind the target. -/
theorem answer_eq (h : s.Sound) (config : c.Moderate) (reads : command.Reads)
    (ok : (s.record () stores command).answer = .ok answer) :
  ∃ address, (s.record () stores command).target = some address ∧
    answer = .byte (s.held address)
  := by
  rcases mode : c.mode with - | -
  · obtain ⟨lost, g⟩ := h.guarded mode
    have suits := config.suits mode
    have ends := ends_run_reads stores suits.valid suits.fits mode reads (g.focus () suits)
      (s := (s.spaces (), s.world))
    obtain ⟨address, target, -, eq⟩ := ends.of_ok ok
    simp only [held, mode]
    use address, target
    apply eq
  · have ends := ends_run_reads_identity stores mode config.valid config.bounded reads
      (s := (s.spaces (), s.world))
    simp only [held, mode]
    apply ends.of_ok ok

/-- A handle has what was written through it. -/
theorem has_of_write (h : s.Sound) (config : c.Moderate)
    (ok : (s.record () stores (.write handle offset value)).answer = .ok answer) :
  (s.act () stores (.write handle offset value)).Has handle offset value
  := by
  obtain ⟨r, found, inside⟩ := exists_region_of_write ok
  have target : (s.record () stores (.write handle offset value)).target =
      some (r.start + offset)
    := by simp only [record, target?, found]
  have written : (s.record () stores (.write handle offset value)).written? = some value := by
    simp only [Record.written?, ok]
    rfl
  use r
  constructor
  · have access : (write handle offset value).IsAccess := trivial
    rw [spaces_act, (sameTables_of_isAccess access).handles]
    apply found
  use inside
  rw [h.held_act config (by rintro ⟨⟩) (by rintro _ _ ⟨⟩)]
  exact Record.after_of_written rfl (by rintro ⟨⟩) target written

/-- A write that spares a byte goes somewhere else. -/
theorem target_ne_of_write (h : s.Sound) {r : Region}
    (found : (s.spaces ()).handles.get handle = .ok r) (inside : offset < r.length)
    {other offset' : Nat} (differs : other = handle → offset' ≠ offset)
    (ok : (s.record () stores (.write other offset' value)).answer = .ok answer) :
  (s.record () stores (.write other offset' value)).target ≠ some (r.start + offset)
  := by
  obtain ⟨r', found', inside'⟩ := exists_region_of_write ok
  have target : (s.record () stores (.write other offset' value)).target =
      some (r'.start + offset')
    := by simp only [record, target?, found']
  rw [target]
  intro eq
  have same_address := Option.some.inj eq
  by_cases same : handle = other
  · subst same
    obtain rfl := Except.ok.inj (found.symm.trans found')
    exact differs rfl (Nat.add_left_cancel same_address)
  · obtain ⟨fence, heap, others, separated⟩ := h.separated
    apply separated.apart same found found' _ (Region.add_mem inside)
    rw [← same_address]
    apply Region.add_mem inside'

/-- A command that spares a byte writes nothing, or writes somewhere else. -/
theorem target_ne (h : s.Sound) {r : Region} (found : (s.spaces ()).handles.get handle = .ok r)
    (inside : offset < r.length) (spares : (s.record () stores command).Spares handle offset) :
  (s.record () stores command).written? = none ∨
    (s.record () stores command).target ≠ some (r.start + offset)
  := by
  obtain ⟨plain, spared⟩ := spares
  rcases ok : (s.record () stores command).answer with e | answer
  · left
    simp only [Record.written?, ok]
  · have silent (passive : command.value? = none) :
        (s.record () stores command).written? = none
      := by
      simp only [Record.written?, ok]
      apply passive
    cases command with
    | write other offset' value' =>
        right
        apply h.target_ne_of_write found inside _ ok
        intro same same_offset
        obtain ⟨e, failed⟩ := spared (decide_eq_true ⟨same, same_offset⟩)
        rw [ok] at failed
        cases failed
    | allocate other size => exact Or.inl (silent rfl)
    | free other => exact Or.inl (silent rfl)
    | read other offset' => exact Or.inl (silent rfl)
    | addArea id start stop => exact Or.inl (silent rfl)
    | serve request =>
        cases request with
        | growArea id size => exact Or.inl (silent rfl)
        | copyToSwap frame slot => cases plain
        | load address => cases plain
        | store address value => cases plain
    | release => cases plain

/-- A command that spares a byte leaves it to its handle. -/
theorem has_act (h : s.Sound) (config : c.Moderate) (has : s.Has handle offset value)
    (spares : (s.record () stores command).Spares handle offset) :
  (s.act () stores command).Has handle offset value
  := by
  obtain ⟨r, found, inside, byte⟩ := has
  have ne : command ≠ .release := by
    rintro rfl
    cases spares.1
  have allowed (frame slot : Nat) : command ≠ .serve (.copyToSwap frame slot) := by
    rintro rfl
    cases spares.1
  have unbound (size : Nat) (eq : command = .allocate handle size) :
      ∃ e, (command.run stores (s.spaces (), s.world)).answer = .error e
    := by
    subst eq
    exact spares.2 (decide_eq_true rfl)
  have unfreed (eq : command = .free handle) :
      ∃ e, (command.run stores (s.spaces (), s.world)).answer = .error e
    := by
    subst eq
    exact spares.2 (decide_eq_true rfl)
  use r
  constructor
  · rw [spaces_act]
    exact (InOrder.get_run (s := (s.spaces (), s.world)) h.inOrder unbound unfreed).trans found
  use inside
  rw [h.held_act config ne allowed, ← byte]
  rcases h.target_ne found inside spares with silent | other
  · apply Record.after_of_silent ne silent
  · apply Record.after_of_target_ne ne other

/-- What is read through a handle is the byte that it has. -/
theorem answer_eq_of_has (h : s.Sound) (config : c.Moderate) (has : s.Has handle offset value)
    (ok : (s.record () stores (.read handle offset)).answer = .ok answer) :
  answer = .byte value
  := by
  obtain ⟨r, found, inside, byte⟩ := has
  have reads : (read handle offset).Reads := trivial
  obtain ⟨address, target, eq⟩ := h.answer_eq config reads ok
  have target' : (s.record () stores (.read handle offset)).target = some (r.start + offset) := by
    simp only [record, target?, found]
  obtain rfl := Option.some.inj (target.symm.trans target')
  rw [eq, byte]

end Sound

end System

/-! ### Runs -/

variable {allowed : Stores → Command → Prop} {history later between earlier : List (Record Unit)}
variable {w r : Record Unit}

theorem Run.sound (run : Run allowed start history s) (alone : start.Alone) :
  s.Sound
  := by
  induction run with
  | start => apply alone.sound
  | step run w same i stores command fits ih => apply (ih.withWorld same).act alone.config

/-- After a write, and whatever spares the byte, the handle has it. -/
theorem Run.has (run : Run allowed start history s) (alone : start.Alone)
    (past : history = between ++ w :: earlier) (wrote : w.command = .write handle offset value)
    (done : w.answer = .ok answer) (spared : ∀ b ∈ between, b.Spares handle offset) :
  s.Has handle offset value
  := by
  induction run generalizing between with
  | start =>
      cases between with
      | nil => cases past
      | cons _ _ => cases past
  | step run world same i stores command fits ih =>
      have sound := (run.sound alone).withWorld same
      cases between with
      | nil =>
          obtain ⟨rfl, rfl⟩ := List.cons.inj past
          obtain rfl : command = .write handle offset value := wrote
          apply sound.has_of_write alone.config done
      | cons b between =>
          obtain ⟨rfl, past'⟩ := List.cons.inj past
          have has := ih past' fun b mem => spared b (List.mem_cons_of_mem _ mem)
          exact sound.has_act alone.config (has.withWorld same) (spared _ List.mem_cons_self)

/-- In every run, what is read through a handle at an offset is what was written there, if every
command since then spared it. -/
theorem Run.read_eq_written (run : Run (fun _ _ => True) start history s) (alone : start.Alone)
    (past : history = later ++ r :: (between ++ w :: earlier))
    (wrote : w.command = .write handle offset value) {address : Answer}
    (done : w.answer = .ok address) (spared : ∀ b ∈ between, b.Spares handle offset)
    (reads : r.command = .read handle offset) (ok : r.answer = .ok answer) :
  answer = .byte value
  := by
  induction run generalizing later with
  | start =>
      cases later with
      | nil => cases past
      | cons _ _ => cases past
  | step run world same i stores command fits ih =>
      cases later with
      | nil =>
          obtain ⟨rfl, rfl⟩ := List.cons.inj past
          obtain rfl : command = .read handle offset := reads
          have has := run.has alone rfl wrote done spared
          exact ((run.sound alone).withWorld same).answer_eq_of_has alone.config
            (has.withWorld same) ok
      | cons _ later =>
          obtain ⟨-, past'⟩ := List.cons.inj past
          apply ih past'


/-! ### A space beside the small machine -/

/-- One space beside the small machine. -/
def System.lone : System (fun _ : Unit => Config.small) HonestMachine :=
  ⟨fun _ => Space.new Config.small, HonestMachine.small⟩

theorem System.lone_alone :
  System.lone.Alone
  := by
  constructor
  · constructor
    · decide
    · decide
    · decide
  · rfl
  · apply System.small_initial.unused

/-- After the first handle is written, the other one is bound again, in vain as long as no page
can be evicted, then freed and bound to bytes next to those of the first, whose page is evicted
when they are written.  The last commands before the read touch the byte and fail. -/
def System.ownershipScript : List (Unit × Stores × Command) :=
  [((), {}, .allocate 0 1), ((), {}, .allocate 1 3), ((), {}, .write 0 0 42),
    ((), {}, .allocate 1 2), ((), {}, .allocate 1 2), ((), {}, .write 1 0 13), ((), {}, .free 1),
    ((), {}, .allocate 1 3), ((), {}, .write 1 1 7), ((), {}, .allocate 0 0),
    ((), { ram := false }, .write 0 0 9), ((), {}, .read 0 0)]

/-- The records of these commands. -/
def System.ownershipHistory : List (Record Unit) := (System.lone.play System.ownershipScript).1

/-- In the space beside the small machine the last command reads what was written first. -/
theorem Run.read_eq_written_lone :
  System.lone.Alone ∧ ∃ r between w earlier,
    System.ownershipHistory = r :: (between ++ w :: earlier) ∧
    w.command = .write 0 0 42 ∧ w.answer = .ok (.address 0) ∧
    (∀ b ∈ between, b.Spares 0 0) ∧ r.command = .read 0 0 ∧
    ∃ answer, r.answer = .ok answer ∧ answer = .byte 42
  := by
  have past : System.ownershipHistory =
      [] ++ System.ownershipHistory[0] :: ((System.ownershipHistory.drop 1).take 8 ++
        System.ownershipHistory[9] :: System.ownershipHistory.drop 10)
    := rfl
  have wrote : System.ownershipHistory[9].command = .write 0 0 42 := by decide +kernel
  have done : System.ownershipHistory[9].answer = .ok (.address 0) := by decide +kernel
  have spared : ∀ b ∈ (System.ownershipHistory.drop 1).take 8, b.Spares 0 0 := by decide +kernel
  have reads : System.ownershipHistory[0].command = .read 0 0 := by decide +kernel
  have ok : System.ownershipHistory[0].answer = .ok (.byte 42) := by decide +kernel
  refine ⟨System.lone_alone, _, _, _, _, past, wrote, done, spared, reads, _, ok, ?_⟩
  exact (Run.play fun _ _ => trivial).read_eq_written System.lone_alone past wrote done spared
    reads ok

end VirtualMemory
