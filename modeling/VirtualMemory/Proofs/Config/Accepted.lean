import VirtualMemory.Proofs.Config.Decoder

/-!
# The documents that are accepted

With a decoder that behaves as documented, a document gives a configuration exactly if its table
fits, and the defaults overlaid by the table are usable: `ofText_eq_ok_iff`.  `Usable` states the
requirements without the bound on words.  The check cuts the product of the number of pages and the
page size at the greatest word, which makes no difference for a table, since the numbers in one are
far below.
-/

namespace VirtualMemory.Config

variable {ε : Type} {d : Decoder ε} {c : Config} {entries : Toml.Entries} {s : Setting} {n : Nat}

/-- What a configuration must be for an address space to work. -/
structure Usable (c : Config) : Prop where
  pageSize : ∃ k, 1 ≤ k ∧ c.pageSize = 2 ^ k
  maxPages : 1 ≤ c.maxPages ∧ c.maxPages ≤ 2 ^ 45
  handleCapacity : 1 ≤ c.handleCapacity
  initialHeapSize : c.initialHeapSize ≤ c.maxPages * c.pageSize

/-- The valid configurations are the usable ones, if the first heap is not greater than a word. -/
theorem validate_eq_ok_iff_usable (word : c.initialHeapSize ≤ Word.greatest) :
  c.validate = .ok () ↔ c.Usable
  := by
  constructor
  · intro valid
    have heap : c.initialHeapSize ≤ min (c.maxPages * c.pageSize) Word.greatest :=
      meets_of_validate valid .initialHeapSize
    use exists_pageSize_eq valid, meets_of_validate valid .maxPages,
      Nat.one_le_iff_ne_zero.mpr (meets_of_validate valid .handleCapacity)
    apply (Nat.le_min.mp heap).1
  · intro usable
    rw [validate_eq_ok_iff]
    rintro ⟨⟩
    · obtain ⟨k, one_le, hk⟩ := usable.pageSize
      have two_le : 2 ^ 1 ≤ 2 ^ k := Nat.pow_le_pow_right (by decide) one_le
      constructor
      · rw [hk]
        apply two_le
      · rw [hk, Nat.log2_two_pow]
    · apply usable.maxPages
    · apply Nat.one_le_iff_ne_zero.mp usable.handleCapacity
    · apply Nat.le_min.mpr ⟨usable.initialHeapSize, word⟩

/-! ### The numbers of a table -/

theorem choice_default_lt (h : ({} : Config).choice s = .number n) :
  n < 2 ^ 63
  := by
  cases s with
  | pageSize | maxPages | handleCapacity | initialHeapSize =>
    cases h
    decide
  | mode | traceAccess | dumpTables => cases h

/-- The numbers of a configuration that overlays the defaults are below half the bound on words. -/
theorem Overlays.number_lt (overlays : Overlays d {} entries c) (regular : Toml.Regular entries)
    (h : c.choice s = .number n) :
  n < 2 ^ 63
  := by
  by_cases given : s.name ∈ entries.map Prod.fst
  · obtain ⟨⟨key, v⟩, mem, rfl⟩ := List.mem_map.mp given
    have written := overlays.given s v mem
    have within := regular.inRange _ mem
    rw [h] at written
    cases written
    have upper : (n : Int) < 2 ^ 63 := within.2
    exact_mod_cast upper
  · rw [overlays.kept s given] at h
    apply choice_default_lt h

theorem Overlays.pageSize_lt (overlays : Overlays d {} entries c)
    (regular : Toml.Regular entries) :
  c.pageSize < 2 ^ 63
  := overlays.number_lt regular (rfl : c.choice .pageSize = _)

theorem Overlays.initialHeapSize_lt (overlays : Overlays d {} entries c)
    (regular : Toml.Regular entries) :
  c.initialHeapSize < 2 ^ 63
  := overlays.number_lt regular (rfl : c.choice .initialHeapSize = _)

/-! ### Acceptance -/

/-- A table is accepted as a configuration: it fits, and the configuration is the defaults overlaid
by the table, and usable. -/
structure Accepts (d : Decoder ε) (entries : Toml.Entries) (c : Config) : Prop where
  fits : Fits d entries
  overlays : Overlays d {} entries c
  usable : c.Usable

theorem Accepts.perm {other : Toml.Entries} (accepts : Accepts d entries c)
    (same : other.Perm entries) :
  Accepts d other c
  := by
  use accepts.fits.perm same, accepts.overlays.perm same
  apply accepts.usable

theorem ofEntries_eq_ok_iff_validate :
  ofEntries d entries = .ok c ↔ d.config entries = .ok c ∧ c.validate = .ok ()
  := by
  unfold ofEntries
  cases decoded : d.config entries with
  | error e => simp
  | ok c' =>
    dsimp only
    cases valid : c'.validate with
    | error missed =>
      simp only [reduceCtorEq, Except.ok.injEq, false_iff, not_and]
      rintro rfl
      simp [valid]
    | ok u =>
      simp only [Except.ok.injEq, iff_self_and]
      rintro rfl
      apply valid

section Documented

variable (documented : d.Documented)

include documented

theorem ofEntries_eq_ok_iff_accepts (regular : Toml.Regular entries) :
  ofEntries d entries = .ok c ↔ Accepts d entries c
  := by
  rw [ofEntries_eq_ok_iff_validate, config_eq_ok_iff documented regular]
  have valid_iff (overlays : Overlays d {} entries c) : c.validate = .ok () ↔ c.Usable := by
    apply validate_eq_ok_iff_usable
    have small := overlays.initialHeapSize_lt regular
    rw [Word.greatest]
    omega
  constructor
  · rintro ⟨⟨fits, overlays⟩, valid⟩
    use fits, overlays
    apply (valid_iff overlays).mp valid
  · rintro ⟨fits, overlays, usable⟩
    constructor
    · constructor
      · apply fits
      · apply overlays
    · apply (valid_iff overlays).mpr usable

/-- The addresses of the first heap of an accepted configuration lie in its pages. -/
theorem Accepts.pageOf (accepts : Accepts d entries c) (regular : Toml.Regular entries) {a : Nat}
    (heap : a < c.initialHeapSize) :
  c.pageOf a < c.maxPages ∧ c.pageOf a * c.pageSize + c.offsetOf a = a
  := by
  have accepted := (ofEntries_eq_ok_iff_accepts documented regular).mpr accepts
  have valid := (ofEntries_eq_ok_iff_validate.mp accepted).2
  have word : c.pageSize < Word.bound := by
    have small := accepts.overlays.pageSize_lt regular
    rw [Word.bound]
    omega
  constructor
  · rw [pageOf_lt_iff valid word]
    apply Nat.lt_of_lt_of_le heap accepts.usable.initialHeapSize
  · apply pageOf_mul_add_offsetOf valid word

end Documented

/-- A table for eight pages that hold more bytes than a word can count, so that the product in the
check is cut, and for a first heap as great as a document can make it. -/
def wideTable : Toml.Entries :=
  [("initial_heap_size", .integer (2 ^ 63 - 1)), ("page_size", .integer (2 ^ 62)),
    ("max_page_number", .integer 8), ("paging", .string "identity")]

/-- The table of a mode that is given as the key of a table and not by a string. -/
def taggedTable : Toml.Entries := [("paging", .table .inline [("paged", .table .inline [])])]

/-- Whether a table is that one. -/
def isTaggedTable : Toml.Entries → Bool
  | [("paging", .table .inline [("paged", .table .inline [])])] => true
  | _ => false

theorem eq_taggedTable (h : isTaggedTable entries = true) :
  entries = taggedTable
  := by
  unfold isTaggedTable at h
  split at h
  · rfl
  · cases h

theorem regular_taggedTable :
  Toml.Regular taggedTable
  := by
  constructor
  · decide
  · simp [taggedTable, Toml.Value.InRange]

/-- The tagged mode is the default, so that the defaults overlay themselves. -/
theorem accepts_taggedTable (documented : d.Documented) :
  Accepts d taggedTable {}
  := by
  have tagged : d.Writes (.table .inline [("paged", .table .inline [])]) (.mode .paged) :=
    .table (documented.mode_tag (m := .paged))
  constructor
  · intro e mem
    cases List.mem_singleton.mp mem
    use .mode
    constructor
    · rfl
    · use {}
      apply tagged
  · constructor
    · intro s v mem
      obtain ⟨named, rfl⟩ := Prod.mk.inj (List.mem_singleton.mp mem)
      obtain rfl : s = .mode := Setting.name_inj.mp named
      apply tagged
    · intro s absent
      rfl
  · rw [← validate_eq_ok_iff_usable (by decide)]
    rfl

end VirtualMemory.Config
