import VirtualMemory.Proofs.System.Run

/-!
# No frame is leaked or owned twice

In every run of a system each frame of the stores has exactly one holder: it is free, or it is
the place of one page of one space, or it was lost when a space released its pages without the
store that holds them.  If both stores are brought to every release nothing is lost, so each
number of a frame occurs exactly once among the free frames and the entries of all pages.
-/

namespace VirtualMemory

open MemoryBacked Command

variable {ι : Type} {configs : ι → Config} {ω : Type} [MemoryBacked ω] {lost : Set Place}
variable {s start : System configs ω} {size frame : Nat} {device : Device}

namespace System

/-- The place of each page of each space. -/
def places (s : System configs ω) (i : ι) : Nat → Option Place := (s.spaces i).paging.places

/-- In each space page table and resident pages agree, and each frame has one holder. -/
structure Guarded (lost : Set Place) (size : Nat) (s : System configs ω) : Prop where
  agreement : ∀ i, (s.spaces i).paging.Agreement
  custody : Custody lost (joint s.places) size (memory s.world)

/-- At the start every frame is free. -/
theorem Initial.guarded (h : start.Initial size) :
  start.Guarded ∅ size
  := by
  constructor
  · intro i
    rw [h.spaces]
    apply Paging.agreement_empty
  · apply h.unused.custody
    rintro ⟨i, page⟩
    rw [joint, places, h.spaces]
    exact congrFun Paging.places_empty page

/-- A space sees custody of its own pages. -/
theorem Guarded.focus (g : s.Guarded lost size) (i : ι) (suits : (configs i).Suits size) :
  Paging.Guarded (elsewhere lost s.places i) ((s.spaces i).paging, s.world)
  := by
  use g.agreement i
  rw [suits.pageSize]
  apply g.custody.focus

/-- A change of the world that keeps the memories does not matter. -/
theorem Guarded.withWorld (g : s.Guarded lost size) {w : ω} (same : memory w = memory s.world) :
  (s.withWorld w).Guarded lost size
  := by
  use g.agreement
  show Custody lost (joint s.places) size (memory w)
  rw [same]
  apply g.custody

variable [DecidableEq ι]

/-- Only the space that gets the command changes its places. -/
theorem places_act {i : ι} {stores : Stores} {command : Command} :
  (s.act i stores command).places = Function.update s.places i
    (command.run stores (s.spaces i, s.world)).state.1.paging.places
  := by
  funext j
  simp only [places, act]
  by_cases eq : j = i
  · subst eq
    simp only [Function.update_self]
  · simp only [Function.update_of_ne eq]
    rfl

/-- What a command leaves behind is guarded if it is for the space that got the command. -/
theorem Guarded.of_focus (g : s.Guarded lost size) {i : ι} (suits : (configs i).Suits size)
    {stores : Stores} {command : Command} {lost' : Set Place}
    (new : Paging.Guarded (elsewhere lost s.places i ∪ lost')
      ((command.run stores (s.spaces i, s.world)).state.1.paging,
        (command.run stores (s.spaces i, s.world)).state.2))
    (mine : ∀ x ∈ lost', ∃ page, s.places i page = some x) :
  (s.act i stores command).Guarded (lost ∪ lost') size
  := by
  constructor
  · intro j
    rw [act]
    by_cases eq : j = i
    · subst eq
      simp only [Function.update_self]
      apply new.agreement
    · simp only [Function.update_of_ne eq]
      apply g.agreement
  · have custody := new.custody
    rw [suits.pageSize] at custody
    rw [places_act]
    apply g.custody.unfocus custody mine

/-- A command keeps custody; a release without a store loses what is held there. -/
theorem Guarded.act (g : s.Guarded lost size) {i : ι} (suits : (configs i).Suits size)
    (stores : Stores) (command : Command) :
  ∃ lost' : Set Place, (∀ x ∈ lost', command = .release ∧ stores.has x.1 = false) ∧
    (s.act i stores command).Guarded (lost ∪ lost') size ∧
    ∀ device, (memory (s.act i stores command).world device).size = (memory s.world device).size
  := by
  have focused := g.focus i suits
  by_cases release : command = .release
  · subst release
    have ends : Paging.Release stores ((s.spaces i).paging, s.world) _ _ := Paging.releaseAll_ends
    obtain ⟨lost', hlost', g', -, bytes⟩ := ends.keeps suits.paged focused
    use lost'
    constructor
    · intro x mem
      constructor
      · rfl
      · apply (hlost' x mem).1
    constructor
    · apply g.of_focus suits
      · rw [state_run_release]
        apply g'
      · intro x mem
        apply (hlost' x mem).2
    · intro d
      rw [System.act, state_run_release]
      exact congrArg Array.size (bytes d)
  · have kept := ((robust_guarded stores suits.fits).run release).state
      (s.spaces i, s.world) ⟨focused, fun _ => rfl⟩
    use ∅
    constructor
    · intro x mem
      apply absurd mem (Set.notMem_empty x)
    constructor
    · apply g.of_focus suits
      · rw [Set.union_empty]
        apply kept.1
      · intro x mem
        exact absurd mem (Set.notMem_empty x)
    · apply kept.2

end System

/-- Whether a frame occurs at a position: a position among the free frames of its store, or a
page of a space. -/
def System.OccursAt (s : System configs ω) (x : Place) :
    Fin (memory s.world x.1).free.length ⊕ ι × Fin pageLimit → Prop
  | .inl k => (memory s.world x.1).free[k] = x.2
  | .inr (i, page) => ((s.spaces i).paging.entry page).place? = some x

/-- Each frame with a holder other than the outside occurs exactly once. -/
theorem System.Guarded.existsUnique_occursAt (g : s.Guarded ∅ size) {x : Place}
    (frame : (memory s.world).IsFrame x) :
  ∃! position, s.OccursAt x position
  := by
  have holds (i : ι) (page : Fin pageLimit)
      (place : ((s.spaces i).paging.entry page).place? = some x) :
      Holds ∅ (joint s.places) (memory s.world) (.page (i, page.1)) x
    := by
    rw [Holds, joint, places, Paging.places_of_lt page.isLt]
    apply place
  obtain ⟨o, held⟩ := g.custody.exists_holder x frame
  cases o with
  | pool =>
      obtain ⟨k, hk, eq⟩ := List.mem_iff_getElem.mp held
      use .inl ⟨k, hk⟩, eq
      rintro (⟨k', hk'⟩ | ⟨i, page⟩) occurs
      · have := (g.custody.nodup x.1).getElem_inj_iff.mp (occurs.trans eq.symm)
        subst this
        rfl
      · cases g.custody.unique _ _ x held (holds i page occurs)
  | page page =>
      obtain ⟨i, page⟩ := page
      have hp : page < pageLimit := by
        by_contra beyond
        rw [Holds, joint, places, Paging.places, if_neg beyond] at held
        cases held
      have place : ((s.spaces i).paging.entry page).place? = some x := by
        rw [← Paging.places_of_lt hp]
        apply held
      use .inr (i, ⟨page, hp⟩), place
      rintro (⟨k', hk'⟩ | ⟨j, page'⟩) occurs
      · have mem : x.2 ∈ (memory s.world x.1).free := List.mem_of_getElem occurs
        cases g.custody.unique _ .pool x held mem
      · obtain ⟨⟩ := g.custody.unique _ _ x held (holds j page' occurs)
        rfl
  | outside => cases held

variable [DecidableEq ι] {history : List (Record ι)}

/-- In every run each frame has one holder, be it that it is lost. -/
theorem Run.exists_guarded {allowed : Stores → Command → Prop} (run : Run allowed start history s)
    (initial : start.Initial size) :
  ∃ lost, s.Guarded lost size
  := by
  induction run with
  | start =>
      use ∅
      apply initial.guarded
  | step run w same i stores command fits ih =>
      obtain ⟨lost, g⟩ := ih
      obtain ⟨lost', -, g', -⟩ := (g.withWorld same).act (initial.suits i) stores command
      use lost ∪ lost'

/-- If both stores are brought to every release, nothing is lost in a run. -/
theorem Run.guarded
    (run : Run (fun stores command => command = .release → stores = ⟨true, true⟩) start history s)
    (initial : start.Initial size) :
  s.Guarded ∅ size ∧ ∀ device, (memory s.world device).size = (memory start.world device).size
  := by
  induction run with
  | start =>
      use initial.guarded
      intro _
      rfl
  | @step history s run w same i stores command fits ih =>
      obtain ⟨g, size_eq⟩ := ih
      obtain ⟨lost', hlost', g', size_eq'⟩ :=
        (g.withWorld same).act (initial.suits i) stores command
      have none : lost' = ∅ := by
        apply Set.eq_empty_of_forall_notMem
        intro x mem
        obtain ⟨release, missing⟩ := hlost' x mem
        rw [fits release] at missing
        cases hx : x.1 with
        | ram => rw [hx] at missing; cases missing
        | swap => rw [hx] at missing; cases missing
      rw [none, Set.union_empty] at g'
      use g'
      intro d
      rw [size_eq', ← size_eq]
      show (memory w d).size = _
      rw [same]

/-- In every run in which both stores are brought to each release, every number of a frame
occurs exactly once among the free frames of its store and the entries of all pages. -/
theorem Run.frame_occurs_once
    (run : Run (fun stores command => command = .release → stores = ⟨true, true⟩) start history s)
    (initial : start.Initial size) (pos : 1 ≤ frame)
    (inside : frame < (memory start.world device).frameCount) :
  ∃! position, s.OccursAt (device, frame) position
  := by
  obtain ⟨g, size_eq⟩ := run.guarded initial
  apply g.existsUnique_occursAt
  use pos
  have frameSize := g.custody.frameSize device
  have frameSize' := initial.unused.frameSize device
  rw [Memory.frameCount] at inside ⊢
  simp only
  rw [size_eq, frameSize, ← frameSize']
  apply inside

/-- The script for the small system, and a release with both stores. -/
def System.teardownScript : List (Bool × Stores × Command) :=
  System.smallScript.concat (true, {}, .release)

/-- After the script for the small system each slot of the swap store occurs once. -/
theorem Run.frame_occurs_once_small :
  (∀ step ∈ System.teardownScript, step.2.2 = .release → step.2.1 = ⟨true, true⟩) ∧
    System.small.Initial 2 ∧ 1 < (memory System.small.world .swap).frameCount ∧
    ∃! position, (System.small.play System.teardownScript).2.OccursAt (.swap, 1) position
  := by
  have fits : ∀ step ∈ System.teardownScript, step.2.2 = .release → step.2.1 = ⟨true, true⟩ := by
    decide
  have inside : 1 < (memory System.small.world .swap).frameCount := by decide
  use fits, System.small_initial, inside
  exact (Run.play fits).frame_occurs_once System.small_initial (Nat.le_refl 1) inside

end VirtualMemory
