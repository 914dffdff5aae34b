import VirtualMemory.Config.Decoder
import VirtualMemory.Proofs.Config.Choices

/-!
# The decoder keeps its promises

The decoder that reads the keys of a table one after the other has the documented behaviour:
`decoder_documented`.  A step changes the setting that its key names and no other, so that a table
with each key once gives every setting the value written for it.
-/

namespace VirtualMemory.Config

variable {base c c' : Config} {entries : Toml.Entries} {v : Toml.Value} {s t : Setting}

/-! ### Values -/

/-- Decoding in two parts succeeds if both do. -/
theorem bind_eq_ok_iff {α β : Type} {x : Except DecodeError α} {f : α → Except DecodeError β}
    {b : β} :
  x >>= f = .ok b ↔ ∃ a, x = .ok a ∧ f a = .ok b
  := by
  cases x with
  | error e => simp [bind, Except.bind]
  | ok a => simp [bind, Except.bind]

theorem setting_ofName?_eq_some_iff {key : String} :
  Setting.ofName? key = some s ↔ s.name = key
  := by
  constructor
  · intro found
    simpa using List.find?_some found
  · rintro rfl
    cases s <;> decide

theorem mode_ofName?_eq_some_iff {name : String} {m : Mode} :
  Mode.ofName? name = some m ↔ name = m.name
  := by
  constructor
  · intro found
    unfold Mode.ofName? at found
    split at found
    · cases found
      rfl
    · cases found
      rfl
    · cases found
  · rintro rfl
    cases m with
    | paged => rfl
    | identity => rfl

theorem readTable_eq_ok_iff {text : String} :
  readTable text = .ok entries ↔ Toml.Document.parse text = some entries
  := by
  unfold readTable
  cases Toml.Document.parse text with
  | none => simp
  | some entries => simp

theorem readNumber_eq_ok_iff {kind : Kind} {n : Nat} :
  readNumber kind v = .ok n ↔ v = .integer n
  := by
  constructor
  · intro read
    unfold readNumber at read
    split at read
    · next i =>
      split at read
      · next nonneg =>
        cases read
        rw [Int.toNat_of_nonneg nonneg]
      · cases read
    · cases read
  · rintro rfl
    rw [readNumber, if_pos (Int.natCast_nonneg n), Int.toNat_natCast]

theorem readFlag_eq_ok_iff {b : Bool} :
  readFlag v = .ok b ↔ v = .boolean b
  := by
  constructor
  · intro read
    unfold readFlag at read
    split at read
    · cases read
      rfl
    · cases read
  · rintro rfl
    rfl

theorem readModeName_eq_ok_iff {name : String} {m : Mode} :
  readModeName name = .ok m ↔ name = m.name
  := by
  rw [← mode_ofName?_eq_some_iff, readModeName]
  cases Mode.ofName? name with
  | none => simp
  | some m' => simp

/-- The name of a mode may be the one key of a table. -/
theorem readMode_tag {m : Mode} :
  readMode (.table .inline [(m.name, .table .inline [])]) = .ok m
  := by
  cases m with
  | paged => rfl
  | identity => rfl

/-- Modes are read from strings and tables. -/
theorem readMode_shape {m : Mode} (read : readMode v = .ok m) :
  (∃ name, v = .string name) ∨ ∃ origin below, v = .table origin below
  := by
  unfold readMode at read
  split at read
  · next name =>
    left
    use name
  · next origin name below =>
    right
    use origin, [(name, below)]
  · cases read

/-! ### Settings -/

/-- A setting takes what the value is read as. -/
theorem choice_of_set (h : c.set v s = .ok c') :
  decoder.choice v s = .ok (c'.choice s)
  := by
  cases s with
  | pageSize | maxPages | handleCapacity | initialHeapSize | mode | traceAccess | dumpTables =>
    obtain ⟨x, read, rest⟩ := bind_eq_ok_iff.mp h
    cases rest
    rw [Decoder.choice, map_eq_ok_iff]
    use x, read
    rfl

/-- The other settings stay. -/
theorem choice_of_set_of_ne (h : c.set v s = .ok c') (other : t ≠ s) :
  c'.choice t = c.choice t
  := by
  cases s with
  | pageSize | maxPages | handleCapacity | initialHeapSize | mode | traceAccess | dumpTables =>
    obtain ⟨x, -, rest⟩ := bind_eq_ok_iff.mp h
    cases rest
    cases t with
    | pageSize | maxPages | handleCapacity | initialHeapSize | mode | traceAccess | dumpTables =>
      first
      | rfl
      | contradiction

/-- A value that is read is taken. -/
theorem exists_set_eq_ok {x : Choice} (read : decoder.choice v s = .ok x) :
  ∃ c', c.set v s = .ok c'
  := by
  cases s with
  | pageSize | maxPages | handleCapacity | initialHeapSize | mode | traceAccess | dumpTables =>
    rw [Decoder.choice, map_eq_ok_iff] at read
    obtain ⟨y, read, -⟩ := read
    apply Exists.intro
    apply bind_eq_ok_iff.mpr
    use y, read
    rfl

theorem setKey_eq_ok_iff {entry : String × Toml.Value} :
  c.setKey entry = .ok c' ↔ ∃ s : Setting, s.name = entry.1 ∧ c.set entry.2 s = .ok c'
  := by
  unfold setKey
  cases found : Setting.ofName? entry.1 with
  | none =>
    simp only [reduceCtorEq, false_iff, not_exists, not_and]
    intro s named
    rw [setting_ofName?_eq_some_iff.mpr named] at found
    cases found
  | some s =>
    have named := setting_ofName?_eq_some_iff.mp found
    constructor
    · intro set
      use s
    · rintro ⟨t, same, set⟩
      rw [setting_ofName?_eq_some_iff.mpr same] at found
      cases found
      apply set

/-! ### Tables -/

/-- Reading a table gives every setting that it names the value written there, and leaves the
others alone. -/
theorem choices_of_foldlM (distinct : (entries.map Prod.fst).Nodup)
    (h : entries.foldlM setKey base = .ok c) :
  (∀ e ∈ entries, ∃ s : Setting, s.name = e.1 ∧ decoder.choice e.2 s = .ok (c.choice s)) ∧
  ∀ s : Setting, s.name ∉ entries.map Prod.fst → c.choice s = base.choice s
  := by
  induction entries generalizing base with
  | nil =>
    cases h
    constructor
    · simp
    · intro s absent
      rfl
  | cons e rest ih =>
    rw [List.map_cons, List.nodup_cons] at distinct
    obtain ⟨fresh, distinct⟩ := distinct
    rw [List.foldlM_cons] at h
    obtain ⟨next, step, h⟩ := bind_eq_ok_iff.mp h
    obtain ⟨s, named, set⟩ := setKey_eq_ok_iff.mp step
    obtain ⟨given, kept⟩ := ih distinct h
    constructor
    · rintro e' (_ | ⟨_, mem⟩)
      · use s, named
        rw [kept s (named ▸ fresh)]
        apply choice_of_set set
      · apply given e' mem
    · intro t absent
      rw [List.map_cons, List.mem_cons, not_or] at absent
      have other : t ≠ s := by
        rintro rfl
        apply absent.1 named
      rw [kept t absent.2, choice_of_set_of_ne set other]

/-- A table is read to its end if its keys are settings and their values are read. -/
theorem exists_foldlM_eq_ok
    (reads : ∀ e ∈ entries, ∃ s : Setting, s.name = e.1 ∧ ∃ x, decoder.choice e.2 s = .ok x) :
  ∃ c, entries.foldlM setKey base = .ok c
  := by
  induction entries generalizing base with
  | nil => use base; rfl
  | cons e rest ih =>
    obtain ⟨s, named, x, read⟩ := reads e List.mem_cons_self
    obtain ⟨next, set⟩ : ∃ next, base.set e.2 s = .ok next := exists_set_eq_ok read
    have step : base.setKey e = .ok next := by
      rw [setKey_eq_ok_iff]
      use s
    obtain ⟨c, readRest⟩ : ∃ c, rest.foldlM setKey next = .ok c := by
      apply ih
      intro e' mem
      apply reads e' (List.mem_cons_of_mem e mem)
    use c
    rw [List.foldlM_cons, bind_eq_ok_iff]
    use next, step

/-- The decoder has the documented behaviour. -/
theorem decoder_documented :
  decoder.Documented
  where
  regular read := Toml.Document.regular_of_parse (readTable_eq_ok_iff.mp read)
  word _ := readNumber_eq_ok_iff
  count _ := readNumber_eq_ok_iff
  flag := readFlag_eq_ok_iff
  mode_name := readModeName_eq_ok_iff
  mode_tag := readMode_tag
  mode_shape := readMode_shape
  known regular decoded e mem := by
    obtain ⟨s, named, -⟩ := (choices_of_foldlM regular.distinct decoded).1 e mem
    use s
  given regular decoded mem := by
    obtain ⟨s, named, read⟩ := (choices_of_foldlM regular.distinct decoded).1 _ mem
    cases Setting.name_inj.mp named
    apply read
  defaulted regular decoded absent := by
    apply (choices_of_foldlM regular.distinct decoded).2 _ absent
  decodes _ reads := exists_foldlM_eq_ok reads

end VirtualMemory.Config
