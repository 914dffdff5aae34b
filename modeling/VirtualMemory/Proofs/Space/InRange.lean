import VirtualMemory.Proofs.Space.Confined

/-!
# Accesses to live regions stay in range

Where the addresses end at `2 ^ 63` or before, the bytes of a live region can be asked for without
trouble in every state of an address space, whatever the stores answer: no sum on the way leaves
the words, the page is below the limit, and the address lies in an area.  The bound on the frame of
the page was checked when the page was cleared or copied.  There is one kind of configuration for
which this fails, the one for which the regions are not accounted for: a region that ends behind
the heap has bytes on a page beyond the limit.
-/

namespace VirtualMemory.Space

open AreaList Command

variable {c : Config} {ω : Type} [Backing ω] {stores : Stores} {s : Space c × ω}
variable {heap : Area} {others : List Area} {handle offset address total direct : Nat}
variable {r : Region} {value : UInt8}

/-- An operation does not fail for a page beyond the limit, and does not report an address outside
the areas. -/
structure Untroubled {σ α : Type} (x : Op σ α) (s : σ) : Prop where
  answer_ne : ∀ page, (x s).answer ≠ .error (.pageOutOfRange page)
  not_mem : ∀ address, .outsideAreas address ∉ (x s).events

omit [Backing ω] in
theorem untroubled_of_ends {α : Type} {x : Op (Space c × ω) α}
    (ends : x.Ends s (fun _ _ => True) (fun e _ => ∀ page, e ≠ .pageOutOfRange page))
    (reports : x.Reports s (fun e => ∀ address, e ≠ .outsideAreas address)) :
  Untroubled x s
  := by
  constructor
  · intro page error
    rw [Op.Ends, error] at ends
    exact ends page rfl
  · intro address mem
    exact reports.events _ mem address rfl

/-- The byte at an offset in the region of a handle is in range: the sums that make its virtual
address and its address in the main store are words before any bit is left away, and reading and
writing it is untroubled. -/
structure InRange (ω : Type) [Backing ω] (s : Space c) (handle : Nat) (r : Region)
    (offset : Nat) : Prop where
  address_lt : r.start + offset < Word.bound
  physical_lt : ∀ (w : ω) (stores : Stores) (frame : Nat),
    (frameAt stores (r.start + offset) (s, w)).answer = .ok frame →
      frame * c.pageSize + c.offsetOf (r.start + offset) < Word.bound
  read : ∀ (w : ω) (stores : Stores), Untroubled (Space.read stores handle offset) (s, w)
  write : ∀ (w : ω) (stores : Stores) (value : UInt8),
    Untroubled (Space.write stores handle offset value) (s, w)

/-! ### Translation -/

omit [Backing ω] in
theorem reports_locate {P : Event → Prop} :
  (locate handle offset).Reports s P
  := by
  apply Op.Reports.bind .gets
  intro bound s'
  apply Op.Reports.bind .ofExcept
  intro r s'
  split
  · apply Op.Reports.fail
  · apply Op.Reports.pure

omit [Backing ω] in
theorem reports_reportAfter {P : Event → Prop} {operation : String}
    (dumped : ∀ text, P (.dumped operation text)) :
  (reportAfter operation).Reports s P
  := by
  rw [reportAfter]
  split
  · apply Op.Reports.bind .gets
    intro text s'
    apply Op.Reports.emit (dumped text)
  · apply Op.Reports.pure

section Admitted

variable (admitted : ¬ (c.mode = .paged ∧ (s.1.areas.covering? address).isSome = false))
include admitted

/-- The search for the frame of an admitted address reports at most that pages move. -/
theorem reports_frameAt :
  (frameAt stores address).Reports s (fun e => ∀ address, e ≠ .outsideAreas address)
  := by
  rw [frameAt, Op.reports_bind]
  use .require
  rw [Op.ends_require]
  constructor
  · intro brought
    rw [Op.reports_bind]
    use .gets
    rw [Op.ends_gets, if_neg admitted]
    apply Op.Reports.focus
    apply Paging.reports_resolve.mono
    rintro e move address rfl
    exact move
  · intro missing
    trivial

/-- The translation of an admitted address reports at most that pages move. -/
theorem reports_translate :
  (translate stores address).Reports s (fun e => ∀ address, e ≠ .outsideAreas address)
  := by
  apply Op.Reports.bind (reports_frameAt admitted)
  intro frame s'
  apply Op.Reports.pure

theorem reports_load :
  (load stores address).Reports s (fun e => ∀ address, e ≠ .outsideAreas address)
  := by
  rw [load, Op.reports_bind]
  constructor
  · exact .emit (by simp)
  · rw [Op.ends_emit]
    apply Op.Reports.bind (reports_translate admitted)
    intro physical s'
    apply Op.Reports.access

theorem reports_store :
  (store stores address value).Reports s (fun e => ∀ address, e ≠ .outsideAreas address)
  := by
  rw [store, Op.reports_bind]
  constructor
  · exact .emit (by simp)
  · rw [Op.ends_emit]
    apply Op.Reports.bind (reports_translate admitted)
    intro physical s'
    apply Op.Reports.bind .access
    intro u s'
    apply Op.Reports.focus
    apply Paging.reports_markDirty

variable (valid : c.validate = .ok ()) (bounded : c.maxPages * c.pageSize ≤ 2 ^ 63)
variable (a : s.1.paging.Agreement) (below : c.pageOf address < c.maxPages)
include valid bounded a below

/-- An admitted address whose page is below the limit has an address in the main store that is a
word, and is not refused for its page. -/
theorem ends_frameAt_of_below :
  (frameAt stores address).Ends s
    (fun frame _ => frame * c.pageSize + c.offsetOf address < Word.bound)
    (fun e _ => ∀ page, e ≠ .pageOutOfRange page)
  := by
  have fits := (Config.meets_of_validate valid .maxPages).2
  rw [ends_frameAt_iff, if_neg admitted]
  split
  · intro page
    simp
  · have ends : Paging.Resolution stores (c.pageOf address) (s.1.paging, s.2) _ _
      := Paging.resolve_ends
    rw [Op.Ends]
    split
    · next frame ok =>
        rw [ok] at ends
        rcases mode : c.mode with - | -
        · have room := ends.room fits mode a
          have offset := Config.offsetOf_lt (a := address) valid
          omega
        · obtain rfl := (ends.of_identity mode).2 frame rfl
          have inside := Config.mul_add_offsetOf_lt (a := address) valid below
          rw [Word.bound]
          omega
    · next e error =>
        rw [error] at ends
        intro page
        apply ends.error_ne below

theorem ends_translate_of_below :
  (translate stores address).Ends s (fun _ _ => True) (fun e _ => ∀ page, e ≠ .pageOutOfRange page)
  := by
  simp only [translate, Op.ends_bind, Op.ends_pure]
  apply (ends_frameAt_of_below admitted valid bounded a below).mono
  · intro frame s' lt
    trivial
  · intro e s' ne
    apply ne

theorem ends_load_of_below :
  (load stores address).Ends s (fun _ _ => True) (fun e _ => ∀ page, e ≠ .pageOutOfRange page)
  := by
  simp only [load, Op.ends_bind, Op.ends_emit, Op.ends_access]
  apply (ends_translate_of_below admitted valid bounded a below).mono
  · intro physical s' lt
    split
    · trivial
    · intro page
      simp
  · intro e s' ne
    apply ne

theorem ends_store_of_below :
  (store stores address value).Ends s (fun _ _ => True)
    (fun e _ => ∀ page, e ≠ .pageOutOfRange page)
  := by
  simp only [store, Op.ends_bind, Op.ends_emit, Op.ends_access, ends_onPaging,
    Paging.ends_markDirty]
  apply (ends_translate_of_below admitted valid bounded a below).mono
  · intro physical s' lt
    split
    · trivial
    · intro page
      simp
  · intro e s' ne
    apply ne

end Admitted

/-! ### Bytes of live regions -/

section Live

variable (found : s.1.handles.get handle = .ok r) (inside : offset < r.length)
variable (admitted : ¬ (c.mode = .paged ∧
  (s.1.areas.covering? (r.start + offset)).isSome = false))
variable (valid : c.validate = .ok ()) (bounded : c.maxPages * c.pageSize ≤ 2 ^ 63)
variable (a : s.1.paging.Agreement)
variable (below : c.pageOf (r.start + offset) < c.maxPages)
include found inside admitted valid bounded a below

theorem untroubled_read :
  Untroubled (read stores handle offset) s
  := by
  have within : ¬ r.length ≤ offset := Nat.not_le_of_lt inside
  apply untroubled_of_ends
  · simp only [read, Op.ends_bind, ends_locate, found, if_neg within]
    apply ends_load_of_below admitted valid bounded a below
  · rw [read, Op.reports_bind]
    use reports_locate
    simp only [ends_locate, found, if_neg within]
    apply reports_load admitted

theorem untroubled_write :
  Untroubled (write stores handle offset value) s
  := by
  have within : ¬ r.length ≤ offset := Nat.not_le_of_lt inside
  apply untroubled_of_ends
  · simp only [write, Op.ends_bind, ends_reportAfter, Op.ends_pure, ends_locate, found,
      if_neg within]
    apply ends_store_of_below admitted valid bounded a below
  · rw [write, Op.reports_bind]
    use reports_locate
    simp only [ends_locate, found, if_neg within]
    apply Op.Reports.bind (reports_store admitted)
    intro u s'
    apply Op.Reports.bind (reports_reportAfter (by simp))
    intro u s'
    apply Op.Reports.pure

end Live

/-- The bytes of live regions are in range where the regions lie in the heap. -/
theorem Bounds.inRange {s : Space c} {pending : List Region} (valid : c.validate = .ok ())
    (bounded : c.maxPages * c.pageSize ≤ 2 ^ 63) (h : s.Bounds)
    (ledger : Ledger total pending s heap others)
    (le : heap.stop ≤ c.maxPages * c.pageSize) (found : s.handles.get handle = .ok r)
    (inside : offset < r.length) :
  InRange ω s handle r offset
  := by
  have word := Config.pageSize_lt_bound valid bounded
  have lt := ledger.add_lt_stop found inside
  have below : c.pageOf (r.start + offset) < c.maxPages := by
    rw [Config.pageOf_lt_iff valid word]
    omega
  have admitted : ¬ (c.mode = .paged ∧
      (s.areas.covering? (r.start + offset)).isSome = false) := by
    rw [ledger.covering found inside]
    simp
  constructor
  · rw [Word.bound]
    omega
  · intro w stores frame ok
    apply (ends_frameAt_of_below (s := (s, w)) admitted valid bounded h.agreement below).of_ok ok
  · intro w stores
    exact untroubled_read (s := (s, w)) found inside admitted valid bounded h.agreement below
  · intro w stores value
    exact untroubled_write (s := (s, w)) found inside admitted valid bounded h.agreement below

/-- Behind the heap of a page that is half of the words, a byte of the first region is on a page
beyond the limit. -/
theorem not_inRange_wide (valid : c.validate = .ok ())
    (bounded : c.maxPages * c.pageSize ≤ 2 ^ 63) (mode : c.mode = .identity)
    (wide : c.pageSize = 2 ^ 63) (empty : c.initialHeapSize = 0) {w : ω} :
  (allocate {} 0 (2 ^ 63 + 1) (new c, w)).state.1.handles.get 0 = .ok ⟨0, 2 ^ 63 + 1⟩ ∧
  ¬ InRange ω (allocate {} 0 (2 ^ 63 + 1) (new c, w)).state.1 0 ⟨0, 2 ^ 63 + 1⟩ (2 ^ 63)
  := by
  obtain ⟨heap, others, -, -, handles⟩ :=
    exists_heap_allocate_wide valid mode wide empty {} w
  generalize (allocate {} 0 (2 ^ 63 + 1) (new c, w)).state.1 = s at handles ⊢
  have found : s.handles.get 0 = .ok ⟨0, 2 ^ 63 + 1⟩ := by
    rw [handles]
    rfl
  have beyond : c.maxPages ≤ c.pageOf (0 + 2 ^ 63) := by
    rw [wide] at bounded
    rw [Config.pageOf_eq valid (by rw [wide]; decide), wide]
    omega
  use found
  intro inRange
  have ends : (read {} 0 (2 ^ 63)).Ends (s, w) (fun _ _ => False)
      (fun e _ => e = .pageOutOfRange (c.pageOf (0 + 2 ^ 63)))
    := by
    have within : ¬ (⟨0, 2 ^ 63 + 1⟩ : Region).length ≤ 2 ^ 63 := by decide
    have admitted : ¬ (c.mode = .paged ∧ (s.areas.covering? (0 + 2 ^ 63)).isSome = false) := by
      rw [mode]
      rintro ⟨⟨⟩, -⟩
    simp only [read, load, Op.ends_bind, Op.ends_emit, ends_locate, found, if_neg within,
      ends_translate_iff, if_neg admitted, Bool.true_eq_false, if_false, Paging.resolve,
      Paging.ends_checkPage]
    constructor
    · intro below
      omega
    · intro above
      trivial
  obtain ⟨e, error, rfl⟩ := ends.exists_error
  exact (inRange.read w {}).answer_ne _ error

/-- Where the addresses end at `2 ^ 63` or before, the heap and all pages with a place stay inside
the address space, and the bytes of live regions are in range but for the one kind of configuration
with such long pages that a region can end behind the heap. -/
theorem confined_and_inRange_iff (valid : c.validate = .ok ())
    (bounded : c.maxPages * c.pageSize ≤ 2 ^ 63) :
  (∀ (ω : Type) [Backing ω] (s : Space c) (direct : Nat), Reaches c ω s direct → s.Confined) ∧
  ((∀ (ω : Type) [Backing ω] (s : Space c) (direct : Nat), Reaches c ω s direct →
      ∀ handle r offset, s.handles.get handle = .ok r → offset < r.length →
        InRange ω s handle r offset) ↔
    ¬ (c.mode = .identity ∧ c.initialHeapSize = 0 ∧ c.pageSize = 2 ^ 63))
  := by
  constructor
  · intro ω _ s direct reached
    apply (reached.bounds valid bounded).confined
  · constructor
    · rintro all ⟨mode, empty, wide⟩
      have world : Machine := ⟨⟨⟨#[], [], 0⟩, {}⟩, ⟨⟨#[], [], 0⟩, {}⟩⟩
      have reached := Reaches.start.step (c := c) world {} (.allocate 0 (2 ^ 63 + 1))
      rw [Command.run, Op.state_map] at reached
      obtain ⟨found, outside⟩ := not_inRange_wide valid bounded mode wide empty (w := world)
      apply outside
      apply all Machine _ _ reached 0 _ _ found
      decide
    · intro regular ω _ s direct reached
      have room := roomy_of_regular valid bounded regular
      obtain ⟨⟨heap, others, account⟩, -⟩ := reached.account valid bounded room
      intro handle r offset found inside
      have bounds := reached.bounds valid bounded
      apply bounds.inRange valid bounded account.ledger account.stop_le found inside

/-- With the default settings everything stays inside the address space, and with such a long page
the heap and the pages do, but not the bytes of live regions. -/
theorem confined_default_and_widePage :
  ((∀ (ω : Type) [Backing ω] (s : Space {}) (direct : Nat), Reaches {} ω s direct → s.Confined) ∧
    ∀ (ω : Type) [Backing ω] (s : Space {}) (direct : Nat), Reaches {} ω s direct →
      ∀ handle r offset, s.handles.get handle = .ok r → offset < r.length →
        InRange ω s handle r offset) ∧
  (∀ (ω : Type) [Backing ω] (s : Space widePage) (direct : Nat), Reaches widePage ω s direct →
    s.Confined) ∧
  ¬ ∀ (ω : Type) [Backing ω] (s : Space widePage) (direct : Nat), Reaches widePage ω s direct →
    ∀ handle r offset, s.handles.get handle = .ok r → offset < r.length →
      InRange ω s handle r offset
  := by
  have ordinary := confined_and_inRange_iff (c := {}) (by decide) (by decide)
  have long := confined_and_inRange_iff (c := widePage) (by decide +kernel) (by decide)
  constructor
  · use ordinary.1
    apply ordinary.2.mpr (by decide)
  use long.1
  rw [long.2]
  decide

end VirtualMemory.Space
