import VirtualMemory.Proofs.Space.Failures

/-!
# Resident pages of a reached space

In every state that a new space reaches, with whatever stores, the list of resident pages has no
page twice and lists the pages whose entry is resident, and every entry that is not empty is
present.  The same holds in the middle of an operation, whenever a frame is asked for: when the
single page of an access is resolved, and before each page of a range that is mapped.  So the
page that is chosen for eviction always has a frame.
-/

namespace VirtualMemory

namespace Paging

variable {c : Config} {ω : Type} {s t : Paging c × ω} {page count : Nat}

/-- The choice of a page for eviction, and of its frame, fails only if no page is resident. -/
theorem Agreement.ends_victim (h : s.1.Agreement) (fits : c.maxPages ≤ pageLimit) :
  (findVictim >>= frameOf : Op (Paging c × ω) Nat).Ends s
    (fun frame _ => ∃ victim ∈ s.1.residency.pages, (s.1.entry victim).frame? = some frame)
    (fun e _ => e = .noVictim ∧ s.1.residency.pages = [])
  := by
  rw [Op.ends_bind, findVictim, Op.ends_onFirst, ends_takeVictim]
  rcases oldest : s.1.residency.pages with - | ⟨victim, rest⟩
  · constructor
    · rfl
    · rfl
  · simp only [ends_frameOf]
    split
    · next frame home =>
        use victim, List.mem_cons_self
        apply home
    · next homeless => exact absurd homeless (h.frame?_oldest_ne_none fits oldest)

variable [Backing ω] {stores : Stores}

/-! ### States in the middle of an operation -/

/-- The states in which the mapping of `count` pages from `page` on asks for a frame. -/
inductive Visits (stores : Stores) :
    (count page : Nat) → Paging c × ω → Paging c × ω → Prop
  | absent {count page : Nat} {s : Paging c × ω}
      (absent : (s.1.entry page).isPresent = false) :
    Visits stores (count + 1) page s s
  | skipped {count page : Nat} {s t : Paging c × ω}
      (present : (s.1.entry page).isPresent = true)
      (rest : Visits stores count (page + 1) s t) :
    Visits stores (count + 1) page s t
  | mapped {count page frame : Nat} {s t : Paging c × ω}
      (absent : (s.1.entry page).isPresent = false)
      (ok : (mapPage stores page s).answer = .ok frame)
      (rest : Visits stores count (page + 1) (mapPage stores page s).state t) :
    Visits stores (count + 1) page s t

/-- Page table and resident pages agree in the middle of the mapping of a range. -/
theorem Visits.agreement (h : Visits stores count page s t) (fits : c.maxPages ≤ pageLimit)
    (range : page + count ≤ c.maxPages) (a : s.1.Agreement) :
  t.1.Agreement
  := by
  induction h with
  | absent absent => apply a
  | skipped present rest ih => apply ih (by omega) a
  | @mapped count page frame s t absent ok rest ih =>
      apply ih (by omega)
      have ends : Mapping stores page s _ _ := mapPage_ends
      apply ends.agreement fits (by omega) (Entry.isResident_eq_false_of_absent absent) a

/-- The mapping of a range fails only as that of a page fails in one of these states. -/
theorem ends_mapFrom_visits {mapped : List Nat} :
  (mapFrom stores count page mapped).Ends s (fun _ _ => True)
    (fun e _ => ∃ t page', Visits stores count page s t ∧
      (mapPage stores page' t).answer = .error e)
  := by
  induction count generalizing page s mapped with
  | zero => trivial
  | succ count ih =>
      simp only [mapFrom, lookEntry, Op.ends_bind, Op.ends_gets]
      rcases present : (s.1.entry page).isPresent with - | -
      · simp only [Bool.false_eq_true, if_false, Op.ends_bind, Op.ends_onFailure, Op.ends_emit]
        rw [Op.Ends]
        split
        · next frame ok =>
            apply ih.mono
            · intro u s' done
              trivial
            · rintro e s' ⟨t, page', visits, failed⟩
              use t, page', .mapped present ok visits, failed
        · next e failed =>
            apply Op.ends_iff_state (P := fun _ => ∃ t page', Visits stores (count + 1) page s t ∧
              (mapPage stores page' t).answer = .error e).mpr
            use s, page, .absent present, failed
      · rw [if_pos rfl]
        apply ih.mono
        · intro u s' done
          trivial
        · rintro e s' ⟨t, page', visits, failed⟩
          use t, page', .skipped present visits, failed

/-- The states in which an operation on a space asks for a frame, where `s` has the pages and the
stores with which it starts: the page of an access is resolved in `s`, and the pages that a range
of addresses touches are mapped one after the other. -/
inductive Asks (stores : Stores) (s : Paging c × ω) : Paging c × ω → Prop
  | access : Asks stores s s
  | range {start stop : Nat} {t : Paging c × ω} (some : start < stop)
      (below : c.pageOf (stop - 1) < c.maxPages)
      (visits : Visits stores (c.pageOf (stop - 1) - c.pageOf start + 1) (c.pageOf start) s t) :
    Asks stores s t

theorem Asks.agreement (h : Asks stores s t) (fits : c.maxPages ≤ pageLimit)
    (a : s.1.Agreement) :
  t.1.Agreement
  := by
  cases h with
  | access => apply a
  | range some below visits =>
      have le := pageOf_mono (c := c) (Nat.le_sub_one_of_lt some)
      apply visits.agreement fits (by omega) a

end Paging

namespace Space

open AreaList Command

variable {c : Config} {ω : Type} [Backing ω] {direct : Nat}

/-! ### Reached spaces -/

/-- In every state that a new space with a valid configuration reaches, page table and resident
pages agree, and so they do in each state in which the next operation asks for a frame: no page
without a frame is chosen for eviction. -/
theorem Reaches.residents (valid : c.validate = .ok ()) {s : Space c}
    (reached : Reaches c ω s direct) :
  s.paging.residency.pages.Nodup ∧
  (∀ page, page ∈ s.paging.residency.pages ↔
    page < pageLimit ∧ (s.paging.entry page).isResident = true) ∧
  (∀ page, s.paging.entry page ≠ .empty → (s.paging.entry page).isPresent = true) ∧
  (∀ listed ∈ s.paging.table.entries, listed.2.isPresent = true) ∧
  ∀ (w w' : ω) (stores : Stores) (t : Paging c × ω), Paging.Asks stores (s.paging, w) t →
    ∀ e, ((Paging.findVictim >>= Paging.frameOf) (t.1, w')).answer = .error e →
      e = .noVictim ∧ t.1.residency.pages = []
  := by
  have fits : c.maxPages ≤ pageLimit := (Config.meets_of_validate valid .maxPages).2
  have agreement : s.paging.Agreement := by
    induction reached with
    | start => apply Paging.agreement_empty
    | @step s direct reached w stores command ih => apply agreement_run fits (s := (s, w)) ih
  have present (page : Nat) (ne : s.paging.entry page ≠ .empty) :
      (s.paging.entry page).isPresent = true
    := by
    have below : page % pageLimit < pageLimit := Nat.mod_lt _ (Nat.two_pow_pos _)
    have kept := agreement.present (page % pageLimit) below
    rw [Paging.entry, PageTable.entry_mod] at kept
    apply (kept ne).1
  use agreement.nodup
  constructor
  · intro page
    constructor
    · intro mem
      have below : page < pageLimit := lt_of_lt_of_le (agreement.below page mem) fits
      use below
      apply (agreement.mem_iff page below).mp mem
    · rintro ⟨below, resident⟩
      exact (agreement.mem_iff page below).mpr resident
  use present
  constructor
  · rintro ⟨page, e⟩ mem
    obtain ⟨below, some, eq⟩ := agreement.wellFormed.mem_entries.mp mem
    subst eq
    apply present page some
  · intro w w' stores t asks e failed
    have chosen := Paging.Agreement.ends_victim (s := (t.1, w'))
      (asks.agreement fits agreement) fits
    rw [Op.Ends, failed] at chosen
    apply chosen

/-- In the small space, two pages are mapped with a single frame: the first one is evicted. -/
theorem residents_small :
  Config.small.validate = .ok () ∧
    ∃ s : Space Config.small, Reaches Config.small Memories s 4 ∧
      s.paging.residency.pages = [1] ∧
      (1 ∈ s.paging.residency.pages ↔ 1 < pageLimit ∧ (s.paging.entry 1).isResident = true) ∧
      s.paging.entry 0 ≠ .empty ∧ (s.paging.entry 0).isPresent = true ∧
      Paging.Asks {} (s.paging, crampedMemories) (s.paging, crampedMemories) ∧
      ∀ e, ((Paging.findVictim >>= Paging.frameOf) (s.paging, crampedMemories)).answer =
        .error e → e = .noVictim ∧ s.paging.residency.pages = []
  := by
  have valid : Config.small.validate = .ok () := by decide
  have reached := Reaches.start.step (c := Config.small) crampedMemories {}
    (.serve (.growArea heapId 3))
  have listed : ((Command.serve (.growArea heapId 3)).run {}
      (new Config.small, crampedMemories)).state.1.paging.residency.pages = [1]
    := by decide +kernel
  have swapped : ((Command.serve (.growArea heapId 3)).run {}
      (new Config.small, crampedMemories)).state.1.paging.entry 0 ≠ .empty
    := by decide +kernel
  obtain ⟨-, mem_iff, present, -, housed⟩ := reached.residents valid
  use valid
  apply Exists.intro
  use reached, listed, mem_iff 1, swapped, present 0 swapped, .access
  apply housed crampedMemories crampedMemories {} _ .access

end Space

end VirtualMemory
