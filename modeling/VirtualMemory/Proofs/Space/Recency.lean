import VirtualMemory.Proofs.Paging.Recency
import VirtualMemory.Proofs.Space.Demand

/-!
# Eviction in the order of residence

The history of a space has a moment after each page fault and after each command, in the order
of the run.  Whatever the stores answer, the resident pages are listed by the time for which they
have been resident, at every moment, exactly if no fault was disturbed: if the oldest of several
pages could always be copied when its frame was needed.  Every eviction takes the page that has
been resident longest then, and no command, whether it succeeds or fails, changes the order of
the pages that stay resident.
-/

namespace VirtualMemory

open Paging

variable {c : Config} {ω : Type} [Backing ω] {stores : Stores} {past : History c ω}

/-! ### Histories of demands -/

/-- The history after a demand: there is a fault for every page that is asked for and is not
resident. -/
def Demand.history (stores : Stores) (s : Paging c × ω) (past : History c ω) :
    Demand → History c ω
  | page number =>
    if c.mode = .paged ∧ number < c.maxPages ∧ (s.1.entry number).isResident = false then
      .fault stores s (resolve stores number s).state.1 :: past
    else past
  | range start stop =>
    if c.mode = .paged ∧ start < stop ∧ c.pageOf (stop - 1) < c.maxPages then
      rangeHistory stores (c.pageOf (stop - 1) - c.pageOf start + 1) (c.pageOf start) s past
    else past
  | nothing | release => past

namespace Paging

variable {s : Paging c × ω} {page start stop : Nat}

/-- Unless a page that is not resident is asked for, nothing happens. -/
theorem state_resolve_of_unasked
    (unasked : ¬ (c.mode = .paged ∧ page < c.maxPages ∧ (s.1.entry page).isResident = false)) :
  (resolve stores page s).state = s
  := by
  have ends : Resolution stores page s _ _ := resolve_ends
  generalize (resolve stores page s).answer = answer at ends
  generalize (resolve stores page s).state = s' at ends
  cases ends with
  | beyond above => rfl
  | identity below mode => rfl
  | resident below mode place => rfl
  | swapped below mode place fault =>
      exact absurd ⟨mode, below, Entry.isResident_eq_false_of_place place (by simp)⟩ unasked
  | unmapped below mode place fault =>
      exact absurd ⟨mode, below, Entry.isResident_eq_false_of_place place (by simp)⟩ unasked

/-- The pages that a range of addresses touches are mapped, if there is one and all are below the
limit. -/
theorem state_mapAddresses :
  (mapAddresses stores start stop s).state =
    if c.mode = .paged ∧ start < stop ∧ c.pageOf (stop - 1) < c.maxPages then
      (mapFrom stores (c.pageOf (stop - 1) - c.pageOf start + 1) (c.pageOf start) [] s).state
    else s
  := by
  apply Op.ends_iff_state (P := fun s' : Paging c × ω => s' = _).mp
  rw [mapAddresses]
  split
  · next none =>
      rw [if_neg]
      · rfl
      · rintro ⟨-, some, -⟩
        omega
  · next some =>
      have lt : start < stop := Nat.lt_of_not_le some
      have le := pageOf_mono (c := c) (Nat.le_sub_one_of_lt lt)
      have last : c.pageOf start + (c.pageOf (stop - 1) - c.pageOf start + 1) - 1
          = c.pageOf (stop - 1)
        := by omega
      rw [mapRange, if_neg (Nat.succ_ne_zero _), last, Op.ends_bind, ends_checkPage]
      constructor
      · intro below
        rcases mode : c.mode with - | -
        · rw [if_pos ⟨rfl, lt, below⟩]
          apply Op.ends_iff_state.mpr
          rfl
        · rw [if_neg]
          · rfl
          · rintro ⟨mode', -⟩
            cases mode'
      · intro above
        rw [if_neg]
        rintro ⟨-, -, below⟩
        omega

end Paging

section Met

variable {s : Paging c × ω} (h : Chain past s.1) (fits : c.maxPages ≤ pageLimit)
include h fits

theorem Paging.Chain.page {page : Nat} :
  ∃ p, Chain ((Demand.page page).history stores s past) p ∧
    (resolve stores page s).state.1.residency.pages.Sublist p.residency.pages
  := by
  have ends : Resolution stores page s _ _ := resolve_ends
  rw [Demand.history]
  split
  · next asked =>
      obtain ⟨mode, below, absent⟩ := asked
      have fresh : page ∉ s.1.residency.pages := by
        rw [h.agreement.mem_iff page (lt_of_lt_of_le below fits), absent]
        exact Bool.false_ne_true
      apply Exists.intro
      constructor
      · apply h.fault fresh (ends.turn fits h.agreement mode below absent)
        apply ends.agreement fits h.agreement
      · apply List.Sublist.refl _
  · next unasked =>
      rw [state_resolve_of_unasked unasked]
      use s.1

theorem Paging.Chain.range {start stop : Nat} :
  ∃ p, Chain ((Demand.range start stop).history stores s past) p ∧
    (mapAddresses stores start stop s).state.1.residency.pages.Sublist p.residency.pages
  := by
  rw [Demand.history, state_mapAddresses]
  split
  · next asked =>
      obtain ⟨mode, some, below⟩ := asked
      have le := pageOf_mono (c := c) (Nat.le_sub_one_of_lt some)
      apply h.mapFrom fits
      omega
  · use s.1

/-- The history of a demand is a chain that ends with the pages after the demand, of which some may
have ceased to be resident. -/
theorem Paging.Chain.demand {demand : Demand} :
  ∃ p, Chain (demand.history stores s past) p ∧
    (demand.run stores s).state.1.residency.pages.Sublist p.residency.pages
  := by
  cases demand with
  | nothing =>
      use s.1, h
      apply List.Sublist.refl _
  | page number =>
      rw [Demand.run, Op.state_map]
      apply h.page fits
  | range start stop => apply h.range fits
  | release =>
      use s.1, h
      rw [Demand.run, Op.state_map]
      have ends : Release stores s _ _ := releaseAll_ends
      generalize (releaseAll stores s).answer = answer at ends
      generalize (releaseAll stores s).state = s' at ends
      cases ends with
      | identity mode => apply List.Sublist.refl
      | released mode => apply List.nil_sublist

end Met

/-! ### Histories of spaces -/

namespace Space

variable {s : Space c}

/-- The states that a new space reaches, each with its history.  Before each command the world may
be changed, and any stores may be brought. -/
inductive Records (c : Config) (ω : Type) [Backing ω] : Space c → History c ω → Prop
  | start : Records c ω (new c) []
  | step {s : Space c} {past : History c ω} (records : Records c ω s past) (w : ω)
      (stores : Stores) (command : Command) :
    Records c ω (command.run stores (s, w)).state.1
      (.ended (command.run stores (s, w)).state.1.paging ::
        (s.demand stores command).history stores (s.paging, w) past)

/-- A state with a history is reached. -/
theorem Records.reaches (records : Records c ω s past) :
  ∃ direct, Reaches c ω s direct
  := by
  induction records with
  | start =>
      use 0
      exact .start
  | step records w stores command ih =>
      obtain ⟨direct, reached⟩ := ih
      apply Exists.intro
      apply reached.step w stores command

/-- The history of a space is a chain. -/
theorem Records.chain (fits : c.maxPages ≤ pageLimit) (records : Records c ω s past) :
  Chain past s.paging
  := by
  induction records with
  | start => apply Chain.start
  | @step s past records w stores command ih =>
      obtain ⟨direct, reached⟩ := records.reaches
      have agreement : (command.run stores (s, w)).state.1.paging.Agreement
        := Command.agreement_run fits (s := (s, w)) ih.agreement
      have met_chain : ∃ p,
          Chain ((s.demand stores command).history stores (s.paging, w) past) p ∧
          (met (s, w) stores (s.demand stores command)).1.residency.pages.Sublist
            p.residency.pages
        := Chain.demand (s := (s.paging, w)) ih fits
      obtain ⟨p, chain, sub⟩ := met_chain
      have marked : Marked (met (s, w) stores (s.demand stores command)).1
          (command.run stores (s, w)).state.1.paging
        := reached.inOrder.marked_run
      apply chain.ended _ agreement
      rw [marked.residency_eq]
      apply sub

/-- At every moment of its history a space lists its resident pages by the time for which they have
been resident, exactly if no fault was disturbed.  Up to the first disturbance, the page that
loses its frame has been resident longest, and pages that stay resident stay in order. -/
theorem Records.always_iff_calm (valid : c.validate = .ok ()) (records : Records c ω s past) :
  (Always past ↔ Calm past) ∧
  (∀ stores before after older, .fault stores before after :: older <:+ past → Calm older →
    ∀ victim ∈ before.1.residency.pages, victim ∉ after.residency.pages →
      ∀ other ∈ before.1.residency.pages, other ≠ victim → age older other < age older victim) ∧
  ∀ m' later m older, m' :: later ++ m :: older <:+ past → Calm (m' :: later ++ m :: older) →
    ∀ a b, (∀ x ∈ m' :: later ++ [m], ∀ page ∈ [a, b], page ∈ x.pages.residency.pages) →
      ([a, b].Sublist m'.pages.residency.pages ↔ [a, b].Sublist m.pages.residency.pages)
  := by
  have fits : c.maxPages ≤ pageLimit := (Config.meets_of_validate valid .maxPages).2
  have chain := records.chain fits
  use chain.always_iff fits
  constructor
  · intro stores before after older suffix calm victim mem gone other mem' ne
    apply (chain.of_suffix suffix).oldest fits calm mem gone mem' ne
  · intro m' later m older suffix calm a b stays
    apply (chain.of_suffix suffix).steady fits calm stays

/-- A machine with two frames and a slot that cannot be written. -/
def stubborn : Machine := ⟨⟨.zeroed 6 2, {}⟩, ⟨.zeroed 8 2, { badWrites := [2] }⟩⟩

/-- The space and the machine after two pages are mapped. -/
def twoMapped : Space Config.small × Machine :=
  ((Command.serve (.growArea heapId 4)).run {} (new Config.small, stubborn)).state

/-- The space and the machine after a third page is wanted. -/
def thirdWanted : Space Config.small × Machine :=
  ((Command.serve (.growArea heapId 2)).run {} twoMapped).state

/-- The first page cannot be copied when a third one is wanted, and is listed last although it has
been resident longest. -/
theorem not_calm_stubborn :
  ∃ past : History Config.small Machine, Records Config.small Machine thirdWanted.1 past ∧
    thirdWanted.1.paging.residency.pages = [1, 0] ∧ age past 1 < age past 0 ∧ ¬ Calm past
  := by
  have records := (Records.start.step (c := Config.small) stubborn {}
    (.serve (.growArea heapId 4))).step twoMapped.2 {} (.serve (.growArea heapId 2))
  have listed : thirdWanted.1.paging.residency.pages = [1, 0] := by decide +kernel
  obtain ⟨past, records, newest, younger⟩ :
      ∃ past, Records Config.small Machine thirdWanted.1 past ∧
        past.head? = some (.ended thirdWanted.1.paging) ∧ age past 1 < age past 0
    := ⟨_, records, rfl, by decide +kernel⟩
  use past, records, listed, younger
  intro calm
  have always := (Records.always_iff_calm (by decide) records).1.mpr calm
  have ordered := always past (List.suffix_refl past) _ newest
  rw [Moment.pages, listed] at ordered
  have older := (List.pairwise_cons.mp ordered).1 0 List.mem_cons_self
  exact absurd older (Nat.lt_asymm younger)

end Space

end VirtualMemory
