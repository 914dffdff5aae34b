import VirtualMemory.Proofs.Paging.Written
import VirtualMemory.Proofs.Space.Recency

/-!
# Dirty pages

The journal of a space notes each page fault, and after those of its command each byte that is
written by a command that succeeds.  Whatever the stores answer, and whether commands succeed or
fail, the dirty flag of a resident page is set exactly if a byte of the page was written since the
page became resident for the last time.  A page that was swapped out has the flag no longer.
-/

namespace VirtualMemory

open Paging

variable {c : Config} {ω : Type} [Backing ω] {stores : Stores} {journal since : Journal c ω}

/-- Each fault of a demand is noted. -/
theorem Paging.Tracked.demand {t : Paging c × ω} {demand : Demand} (h : Tracked journal t.1) :
  Tracked (journal.extend (demand.history stores t [])) (demand.run stores t).state.1
  := by
  cases demand with
  | nothing => apply h
  | page number =>
      rw [Demand.run, Op.state_map, Demand.history]
      split
      · apply h.fault
        have ends : Resolution stores number t _ _ := resolve_ends
        apply ends.renews
      · next unasked =>
          rw [state_resolve_of_unasked unasked]
          apply h
  | range start stop =>
      rw [Demand.run, Demand.history, state_mapAddresses]
      split
      · have outset : Tracked (journal.extend []) t.1 := h
        apply outset.mapFrom
      · apply h
  | release =>
      rw [Demand.run, Op.state_map]
      have ends : Release stores t _ _ := releaseAll_ends
      generalize (releaseAll stores t).answer = answer at ends
      generalize (releaseAll stores t).state = t' at ends
      cases ends with
      | identity mode => apply h
      | released mode => apply tracked_empty

/-- What follows the faults of a command is noted, if it is a write. -/
theorem Paging.Followed.tracked {t t' : Paging c × ω} {written : Option Nat}
    (followed : Followed t written t') (fits : c.maxPages ≤ pageLimit) (h : Tracked journal t.1) :
  Tracked (written.toList.map .wrote ++ journal) t'.1
  := by
  cases followed with
  | same => apply h
  | read address => apply h
  | unwritten address value => apply h
  | written address value below => exact h.wrote (lt_of_lt_of_le below fits)
  | copied frame slot => apply h

namespace Space

variable {s : Space c}

/-- The states that a new space reaches, each with its journal.  Before each command the world may
be changed, and any stores may be brought. -/
inductive Logged (c : Config) (ω : Type) [Backing ω] : Space c → Journal c ω → Prop
  | start : Logged c ω (new c) []
  | step {s : Space c} {journal : Journal c ω} (logged : Logged c ω s journal) (w : ω)
      (stores : Stores) (command : Command) :
    Logged c ω (command.run stores (s, w)).state.1
      ((command.written? stores (s, w)).toList.map .wrote ++
        journal.extend ((s.demand stores command).history stores (s.paging, w) []))

/-- A state with a journal is reached. -/
theorem Logged.reaches (logged : Logged c ω s journal) :
  ∃ direct, Reaches c ω s direct
  := by
  induction logged with
  | start =>
      use 0
      exact .start
  | step logged w stores command ih =>
      obtain ⟨direct, reached⟩ := ih
      apply Exists.intro
      apply reached.step w stores command

/-- The journal of a space keeps track of its dirty pages. -/
theorem Logged.tracked (fits : c.maxPages ≤ pageLimit) (logged : Logged c ω s journal) :
  Tracked journal s.paging
  := by
  induction logged with
  | start => apply tracked_empty
  | @step s journal logged w stores command ih =>
      obtain ⟨direct, reached⟩ := logged.reaches
      have followed : Followed (met (s, w) stores (s.demand stores command))
          (command.written? stores (s, w)) _
        := reached.inOrder.followed_run
      apply followed.tracked fits
      apply Tracked.demand (t := (s.paging, w)) ih

/-- In every state that is reached, the dirty flag of each resident page is set exactly if a byte of
the page was written since the page became resident for the last time, and no page that is
swapped out has the flag. -/
theorem Logged.isDirty_iff (valid : c.validate = .ok ()) (logged : Logged c ω s journal) :
  (∀ page < pageLimit, (s.paging.entry page).isResident = true →
    ∃ since, Since journal page since ∧
      ((s.paging.entry page).isDirty = true ↔
        ∃ address, .wrote address ∈ since ∧ c.pageOf address = page)) ∧
  ∀ page, (s.paging.entry page).isSwapped = true → (s.paging.entry page).isDirty = false
  := by
  have fits : c.maxPages ≤ pageLimit := (Config.meets_of_validate valid .maxPages).2
  have tracked := logged.tracked fits
  use tracked.resident
  apply tracked.swapped

/-- Memories with one frame and two slots. -/
def narrowMemories : Memories
  | .ram => .zeroed 4 2
  | .swap => .zeroed 6 2

/-- A space and its memories after two pages are mapped in one frame, and the first one is written
to. -/
def writtenOnce : Space Config.small × Memories :=
  ((Command.serve (.store 1 7)).run {}
    ((Command.serve (.growArea heapId 3)).run {} (new Config.small, narrowMemories)).state).state

/-- After that the second page is read, and then the first one. -/
def readAgain : Space Config.small × Memories :=
  ((Command.serve (.load 1)).run {} ((Command.serve (.load 2)).run {} writtenOnce).state).state

/-- The first page is dirty after the write; when it has come back from its slot it is not. -/
theorem isDirty_iff_readAgain :
  Config.small.validate = .ok () ∧
  (∃ journal since, Logged Config.small Memories writtenOnce.1 journal ∧ Since journal 0 since ∧
    ∃ address, .wrote address ∈ since ∧ Config.small.pageOf address = 0) ∧
  ∃ journal since, Logged Config.small Memories readAgain.1 journal ∧ Since journal 0 since ∧
    (¬ ∃ address, .wrote address ∈ since ∧ Config.small.pageOf address = 0) ∧
    (readAgain.1.paging.entry 1).isSwapped = true ∧ (readAgain.1.paging.entry 1).isDirty = false
  := by
  have valid : Config.small.validate = .ok () := by decide
  obtain ⟨journal, once⟩ : ∃ journal, Logged Config.small Memories writtenOnce.1 journal
    := ⟨_, (Logged.start.step narrowMemories {} (.serve (.growArea heapId 3))).step _ {}
      (.serve (.store 1 7))⟩
  obtain ⟨journal', again⟩ : ∃ journal, Logged Config.small Memories readAgain.1 journal
    := ⟨_, (once.step writtenOnce.2 {} (.serve (.load 2))).step _ {} (.serve (.load 1))⟩
  have resident : (writtenOnce.1.paging.entry 0).isResident = true ∧
      (writtenOnce.1.paging.entry 0).isDirty = true
    := by decide +kernel
  have resident' : (readAgain.1.paging.entry 0).isResident = true ∧
      (readAgain.1.paging.entry 0).isDirty = false
    := by decide +kernel
  have swapped : (readAgain.1.paging.entry 1).isSwapped = true := by decide +kernel
  obtain ⟨since, arrived, dirty⟩ := (once.isDirty_iff valid).1 0 (by decide) resident.1
  obtain ⟨since', arrived', dirty'⟩ := (again.isDirty_iff valid).1 0 (by decide) resident'.1
  use valid
  constructor
  · use journal, since, once, arrived
    apply dirty.mp resident.2
  · use journal', since', again, arrived'
    constructor
    · intro written
      have clean := dirty'.mpr written
      rw [resident'.2] at clean
      cases clean
    use swapped
    apply (again.isDirty_iff valid).2 1 swapped

end Space

end VirtualMemory
