import VirtualMemory.Proofs.System.Custody

/-!
# A flat map of bytes for each space

In every run of a system, a byte that a space reads at a virtual address is the one that was
last written there through this space, or zero if none was since the space was made or released
its pages.  Evictions, returns from swap, failed commands and the commands of other spaces do
not show.
-/

namespace VirtualMemory

open MemoryBacked Command

variable {ι : Type}

/-- The byte that a command read, if it succeeded. -/
def Record.read? (r : Record ι) : Option UInt8 :=
  match r.command, r.answer with
  | .read .., .ok (.byte value) | .serve (.load _), .ok (.byte value) => some value
  | _, _ => none

/-- The byte that a command wrote, if it succeeded. -/
def Record.written? (r : Record ι) : Option UInt8 :=
  match r.answer with
  | .ok _ => r.command.value?
  | .error _ => none

variable [DecidableEq ι]

/-- The byte at an address of a space after a command, by what it was before. -/
def Record.after (r : Record ι) (i : ι) (address : Nat) (before : UInt8) : UInt8 :=
  if r.space = i then
    if r.command = .release then 0
    else if r.target = some address then r.written?.getD before
    else before
  else before

section After

variable {r : Record ι} {i : ι} {address : Nat} {before value : UInt8}

theorem Record.after_of_ne (ne : r.space ≠ i) :
  r.after i address before = before
  := if_neg ne

/-- A release leaves zeros behind. -/
theorem Record.after_of_release (here : r.space = i) (release : r.command = .release) :
  r.after i address before = 0
  := by
  rw [after, if_pos here, if_pos release]

theorem Record.after_of_written (here : r.space = i) (ne : r.command ≠ .release)
    (target : r.target = some address) (written : r.written? = some value) :
  r.after i address before = value
  := by
  rw [after, if_pos here, if_neg ne, if_pos target, written, Option.getD_some]

theorem Record.after_of_target_ne (ne : r.command ≠ .release) (other : r.target ≠ some address) :
  r.after i address before = before
  := by
  rw [after, if_neg ne, if_neg other, ite_self]

theorem Record.after_of_silent (ne : r.command ≠ .release) (silent : r.written? = none) :
  r.after i address before = before
  := by
  rw [after, if_neg ne, silent, Option.getD_none, ite_self, ite_self]

end After

/-- The byte last written at an address through a space since it released its pages, zero if
there is none; the history lists the last record first. -/
def lastWritten (i : ι) (address : Nat) : List (Record ι) → UInt8
  | [] => 0
  | r :: earlier => r.after i address (lastWritten i address earlier)

variable {configs : ι → Config} {ω : Type} [MemoryBacked ω] {lost : Set Place}
variable {s start : System configs ω} {size : Nat} {i j : ι} {stores : Stores} {command : Command}
variable {history : List (Record ι)}

namespace System

/-- The byte at a virtual address of a space. -/
def byteAt (s : System configs ω) (i : ι) (address : Nat) : UInt8 :=
  content (s.places i) (configs i).pageSize (memory s.world) ((configs i).pageOf address)
    ((configs i).offsetOf address)

omit [DecidableEq ι] in
/-- The other spaces keep their bytes if the bytes of their places stay. -/
theorem content_eq_of_elsewhere {f : ι → Nat → Option Place} {m m' : Memories}
    (outside : ∀ x ∈ elsewhere lost f i, ∀ k < size, m'.placeByte size x k = m.placeByte size x k)
    (ne : j ≠ i) {page k : Nat} (hk : k < size) :
  content (f j) size m' page k = content (f j) size m page k
  := by
  rcases place : f j page with - | x
  · rw [content_of_none place, content_of_none place]
  · rw [content_of_place place, content_of_place place]
    apply outside x _ k hk
    exact Or.inr ⟨j, ne, page, place⟩

omit [DecidableEq ι] in
/-- No effect of a command shows in the places outside. -/
theorem outside_of_effect {c : Config} {out : Set Place} {t : Space c × ω}
    {r : Outcome (Space c × ω) Answer} (effect : Effect out t command r) :
  ∀ x ∈ out, ∀ k < c.pageSize,
    (memory r.state.2).placeByte c.pageSize x k = (memory t.2).placeByte c.pageSize x k
  := by
  cases effect with
  | released release emptied bytes =>
      intro x mem k hk
      rw [Memories.placeByte, Memories.byte, bytes]
      rfl
  | wrote writes ok target wrote => apply wrote.outside
  | kept ne silent kept => apply kept.outside

/-- A command to a space changes its bytes as its record tells. -/
theorem byteAt_act_self {out : Set Place} (valid : (configs i).validate = .ok ())
    (effect : Effect out (s.spaces i, s.world) command
      (command.run stores (s.spaces i, s.world))) (address : Nat) :
  (s.act i stores command).byteAt i address =
    (s.record i stores command).after i address (s.byteAt i address)
  := by
  have hk := Config.offsetOf_lt valid (a := address)
  have byteAt_eq : (s.act i stores command).byteAt i address =
      content (command.run stores (s.spaces i, s.world)).state.1.paging.places
        (configs i).pageSize (memory (s.act i stores command).world)
        ((configs i).pageOf address) ((configs i).offsetOf address)
    := by
    rw [byteAt, places_act, Function.update_self]
  rw [byteAt_eq]
  cases effect with
  | released release emptied bytes =>
      rw [emptied, Paging.places_empty, content_of_none rfl]
      exact (Record.after_of_release (r := s.record i stores command) rfl release).symm
  | @wrote value target answer writes ok target_eq wrote =>
      have ne : command ≠ .release := by
        rintro rfl
        cases writes
      have written : (s.record i stores command).written? = some value := by
        simp only [Record.written?, record, ok, writes]
      have content_eq := wrote.content ((configs i).pageOf address)
        ((configs i).offsetOf address) hk
      apply content_eq.trans
      by_cases same : target = address
      · subst same
        rw [if_pos ⟨rfl, rfl⟩]
        exact (Record.after_of_written (r := s.record i stores command) rfl ne target_eq
          written).symm
      · have differ : ¬ ((configs i).pageOf address = (configs i).pageOf target ∧
            (configs i).offsetOf address = (configs i).offsetOf target)
          := by
          rintro ⟨page, offset⟩
          apply same (Config.eq_of_pageOf_eq valid page offset).symm
        have other : (s.record i stores command).target ≠ some address := by
          intro h
          apply same (Option.some.inj (target_eq.symm.trans h))
        rw [if_neg differ, Record.after_of_target_ne ne other]
        rfl
  | kept ne silent kept =>
      have written : (s.record i stores command).written? = none := by
        rcases silent with none | ⟨e, error⟩
        · rw [Record.written?]
          split
          · apply none
          · rfl
        · simp only [Record.written?, record, error]
      rw [Record.after_of_silent ne written]
      apply kept.content _ _ hk

/-- A command to a space changes no byte of another one. -/
theorem byteAt_act_of_ne (suits : ∀ i, (configs i).Suits size)
    (effect : Effect (elsewhere lost s.places i) (s.spaces i, s.world) command
      (command.run stores (s.spaces i, s.world))) (ne : j ≠ i) (address : Nat) :
  (s.act i stores command).byteAt j address = s.byteAt j address
  := by
  have hk := Config.offsetOf_lt (suits j).valid (a := address)
  have outside := outside_of_effect effect
  rw [(suits i).pageSize] at outside
  rw [(suits j).pageSize] at hk
  rw [byteAt, places_act, Function.update_of_ne ne, byteAt, (suits j).pageSize]
  apply content_eq_of_elsewhere outside ne hk

/-- What a command to one space does to the bytes of all spaces. -/
theorem Guarded.byteAt_act (g : s.Guarded lost size) (suits : ∀ i, (configs i).Suits size)
    (allowed : ∀ frame slot, command ≠ .serve (.copyToSwap frame slot)) (address : Nat) :
  (s.act i stores command).byteAt j address =
    (s.record i stores command).after j address (s.byteAt j address)
  := by
  have effect := effect_run stores (suits i).valid (suits i).fits (suits i).paged
    (g.focus i (suits i)) allowed (s := (s.spaces i, s.world))
  by_cases eq : j = i
  · subst eq
    apply byteAt_act_self (suits j).valid effect
  · rw [byteAt_act_of_ne suits effect eq, Record.after_of_ne (Ne.symm eq)]

omit [DecidableEq ι] in
/-- A byte that is read is the one at the target. -/
theorem Guarded.read_eq_byteAt (g : s.Guarded lost size) (suits : ∀ i, (configs i).Suits size)
    {address : Nat} {value : UInt8}
    (target : (s.record i stores command).target = some address)
    (read : (s.record i stores command).read? = some value) :
  value = s.byteAt i address
  := by
  have reads : command.Reads := by
    cases command with
    | read handle offset => trivial
    | serve request =>
        cases request with
        | load address => trivial
        | growArea area size => cases read
        | copyToSwap frame slot => cases read
        | store address value => cases read
    | allocate handle size => cases read
    | free handle => cases read
    | write handle offset value => cases read
    | addArea id start stop => cases read
    | release => cases read
  have answer : (command.run stores (s.spaces i, s.world)).answer = .ok (.byte value) := by
    rw [Record.read?] at read
    split at read
    · next ok =>
        obtain rfl := Option.some.inj read
        apply ok
    · next ok =>
        obtain rfl := Option.some.inj read
        apply ok
    · cases read
  have ends := ends_run_reads stores (suits i).valid (suits i).fits (suits i).paged
    reads (g.focus i (suits i)) (s := (s.spaces i, s.world))
  obtain ⟨address', target', -, value_eq⟩ := ends.of_ok answer
  obtain rfl := Option.some.inj (target.symm.trans target')
  apply Answer.byte.inj value_eq

end System

/-- In every run, each byte of a space is the one last written there. -/
theorem Run.byteAt_eq
    (run : Run (fun _ command => ∀ frame slot, command ≠ .serve (.copyToSwap frame slot))
      start history s)
    (initial : start.Initial size) :
  (∃ lost, s.Guarded lost size) ∧ ∀ i address, s.byteAt i address = lastWritten i address history
  := by
  induction run with
  | start =>
      constructor
      · use ∅
        apply initial.guarded
      · intro i address
        rw [System.byteAt, System.places, initial.spaces]
        apply content_of_none
        rw [Space.new, Paging.places_empty]
  | @step history s run w same i stores command allowed ih =>
      obtain ⟨⟨lost, g⟩, bytes⟩ := ih
      have g' := g.withWorld same
      obtain ⟨lost', -, g'', -⟩ := g'.act (initial.suits i) stores command
      constructor
      · use lost ∪ lost'
      · intro j address
        rw [g'.byteAt_act initial.suits allowed, lastWritten, ← bytes]
        congr 1
        rw [System.byteAt, System.byteAt, System.withWorld, same]
        rfl

/-- In every run, each byte that was read is the one last written before, at the same virtual
address of the same space. -/
theorem Run.read_eq_lastWritten
    (run : Run (fun _ command => ∀ frame slot, command ≠ .serve (.copyToSwap frame slot))
      start history s)
    (initial : start.Initial size) {later earlier : List (Record ι)} {r : Record ι}
    (past : history = later ++ r :: earlier) {address : Nat} {value : UInt8}
    (target : r.target = some address) (read : r.read? = some value) :
  value = lastWritten r.space address earlier
  := by
  induction run generalizing later with
  | start =>
      cases later with
      | nil => cases past
      | cons _ _ => cases past
  | @step history s run w same i stores command allowed ih =>
      cases later with
      | nil =>
          obtain ⟨rfl, rfl⟩ := List.cons.inj past
          obtain ⟨⟨lost, g⟩, bytes⟩ := run.byteAt_eq initial
          rw [(g.withWorld same).read_eq_byteAt initial.suits target read]
          show (s.withWorld w).byteAt i address = lastWritten i address history
          rw [← bytes, System.byteAt, System.byteAt, System.withWorld, same]
          rfl
      | cons _ later =>
          obtain ⟨-, past'⟩ := List.cons.inj past
          apply ih past'

/-- In the small system the last command reads what was written before its page was evicted. -/
theorem Run.read_eq_lastWritten_small :
  (∀ step ∈ System.smallScript, ∀ frame slot, step.2.2 ≠ .serve (.copyToSwap frame slot)) ∧
    System.small.Initial 2 ∧ ∃ r earlier, (System.small.play System.smallScript).1 = r :: earlier ∧
    r.target = some 0 ∧ r.read? = some 42 ∧ 42 = lastWritten r.space 0 earlier
  := by
  have fits : ∀ step ∈ System.smallScript, ∀ frame slot,
      step.2.2 ≠ .serve (.copyToSwap frame slot)
    := by
    simp [System.smallScript]
  use fits, System.small_initial
  obtain ⟨r, earlier, past⟩ : ∃ r earlier, (System.small.play System.smallScript).1 = r :: earlier
    := ⟨_, _, rfl⟩
  have target : (System.small.play System.smallScript).1.map Record.target =
      [some 0, some 0, some 0, some 2, some 2, some 0, some 0, none, none, none]
    := by decide +kernel
  have read : (System.small.play System.smallScript).1.map Record.read? =
      [some 42, none, none, some 0, none, none, none, none, none, none]
    := by decide +kernel
  rw [past, List.map_cons] at target read
  have target' := (List.cons.inj target).1
  have read' := (List.cons.inj read).1
  have last := (Run.play fits).read_eq_lastWritten System.small_initial
    (past.trans (List.nil_append _).symm) target' read'
  use r, earlier

end VirtualMemory
