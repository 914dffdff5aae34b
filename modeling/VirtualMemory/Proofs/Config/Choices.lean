import VirtualMemory.Config.Document
import VirtualMemory.Proofs.Config.Geometry
import VirtualMemory.Proofs.Toml.Regular

/-!
# What a table of settings says

A configuration makes a choice for each setting, `Config.choice`.  `Decoder.Documented` is what
users of a decoder may rely on: it reads numbers from the integers that are not negative, truth
values from truth values, and modes from their names, or from tables of its own choosing; it knows
no other keys than the settings, and where a table is silent it takes the default.  `Writes` says
which values then stand for which choice, and a configuration overlays another one by a table if
its choices are those that the table writes, and those of the other one where the table is silent:
`Overlays` speaks of the keys in the table and not of their order.  Such a decoder finds the one
configuration that overlays the defaults, and fails only at a key that is no setting or at a value
that stands for no choice of it.
-/

namespace VirtualMemory.Config

variable {ε : Type} {d : Decoder ε} {base c c' : Config} {entries : Toml.Entries}
variable {v : Toml.Value} {s t : Setting} {text name : String}

/-- What a configuration says on a setting. -/
inductive Choice
  | number (n : Nat)
  | mode (m : Mode)
  | flag (b : Bool)

/-- The choice of a configuration for a setting. -/
def choice (c : Config) : Setting → Choice
  | .pageSize => .number c.pageSize
  | .maxPages => .number c.maxPages
  | .handleCapacity => .number c.handleCapacity
  | .initialHeapSize => .number c.initialHeapSize
  | .mode => .mode c.mode
  | .traceAccess => .flag c.traceAccess
  | .dumpTables => .flag c.dumpTables

/-- A configuration is determined by its choices. -/
theorem ext_choice (h : ∀ s, c.choice s = c'.choice s) :
  c = c'
  := by
  obtain ⟨⟩ := c
  obtain ⟨⟩ := c'
  have pageSize := h .pageSize
  have maxPages := h .maxPages
  have handleCapacity := h .handleCapacity
  have initialHeapSize := h .initialHeapSize
  have mode := h .mode
  have traceAccess := h .traceAccess
  have dumpTables := h .dumpTables
  simp only [choice, Choice.number.injEq, Choice.mode.injEq, Choice.flag.injEq] at *
  subst_vars
  rfl

theorem Setting.name_inj :
  s.name = t.name ↔ s = t
  := by
  constructor
  · cases s <;> cases t <;> decide
  · apply congrArg

/-! ### Decoders -/

namespace Decoder

/-- The choice for a setting that a value is read as. -/
def choice (d : Decoder ε) (v : Toml.Value) : Setting → Except ε Choice
  | .pageSize => .number <$> d.word v
  | .maxPages => .number <$> d.word v
  | .handleCapacity => .number <$> d.count v
  | .initialHeapSize => .number <$> d.word v
  | .mode => .mode <$> d.mode v
  | .traceAccess => .flag <$> d.flag v
  | .dumpTables => .flag <$> d.flag v

/-- What the documentation of a decoder promises. -/
structure Documented (d : Decoder ε) : Prop where
  /-- A document has each key once, and its integers are words with a sign. -/
  regular : ∀ {text entries}, d.table text = .ok entries → Toml.Regular entries
  /-- Words are read from integers that are not negative, and from nothing else. -/
  word : ∀ {v} {n : Nat}, v.InRange → (d.word v = .ok n ↔ v = .integer n)
  /-- Counts are read like words. -/
  count : ∀ {v} {n : Nat}, v.InRange → (d.count v = .ok n ↔ v = .integer n)
  /-- Truth values are read from truth values. -/
  flag : ∀ {v b}, d.flag v = .ok b ↔ v = .boolean b
  /-- A string is read as the mode of that name. -/
  mode_name : ∀ {name} {m : Mode}, d.mode (.string name) = .ok m ↔ name = m.name
  /-- The name of a mode may also be a tag: the one key of a table, with nothing below it. -/
  mode_tag : ∀ {m : Mode}, d.mode (.table .inline [(m.name, .table .inline [])]) = .ok m
  /-- Modes are read from strings and tables only. -/
  mode_shape : ∀ {v m}, d.mode v = .ok m →
    (∃ name, v = .string name) ∨ ∃ origin below, v = .table origin below
  /-- Keys that are no settings are denied. -/
  known : ∀ {entries c}, Toml.Regular entries → d.config entries = .ok c →
    ∀ e ∈ entries, ∃ s : Setting, s.name = e.1
  /-- A setting is what its value is read as. -/
  given : ∀ {entries c v} {s : Setting}, Toml.Regular entries → d.config entries = .ok c →
    (s.name, v) ∈ entries → d.choice v s = .ok (c.choice s)
  /-- A setting that is not given has its default. -/
  defaulted : ∀ {entries c} {s : Setting}, Toml.Regular entries → d.config entries = .ok c →
    s.name ∉ entries.map Prod.fst → c.choice s = ({} : Config).choice s
  /-- A table of settings is decoded if each of its values is read. -/
  decodes : ∀ {entries}, Toml.Regular entries →
    (∀ e ∈ entries, ∃ s : Setting, s.name = e.1 ∧ ∃ x, d.choice e.2 s = .ok x) →
    ∃ c, d.config entries = .ok c

/-- A value stands for a choice: an integer, a truth value, or the name of a mode.  Which tables
stand for modes is up to the decoder. -/
inductive Writes (d : Decoder ε) : Toml.Value → Choice → Prop
  | number (n : Nat) : Writes d (.integer n) (.number n)
  | flag (b : Bool) : Writes d (.boolean b) (.flag b)
  | name (m : Mode) : Writes d (.string m.name) (.mode m)
  | table {m : Mode} {origin : Toml.Origin} {below : Toml.Entries}
    (tagged : d.mode (.table origin below) = .ok m) : Writes d (.table origin below) (.mode m)

end Decoder

/-- An answer that is passed on in another form. -/
theorem map_eq_ok_iff {α β : Type} {x : Except ε α} {f : α → β} {b : β} :
  f <$> x = .ok b ↔ ∃ a, x = .ok a ∧ f a = b
  := by
  cases x with
  | error e => simp [Functor.map, Except.map]
  | ok a => simp [Functor.map, Except.map]

section Documented

variable (documented : d.Documented)

include documented

theorem Decoder.Documented.mode_eq_ok_iff {m : Mode} :
  d.mode v = .ok m ↔ d.Writes v (.mode m)
  := by
  constructor
  · intro read
    rcases documented.mode_shape read with ⟨name, rfl⟩ | ⟨origin, below, rfl⟩
    · rw [documented.mode_name.mp read]
      apply Decoder.Writes.name
    · apply Decoder.Writes.table read
  · intro writes
    cases writes with
    | name => apply documented.mode_name.mpr rfl
    | table tagged => apply tagged

theorem Decoder.Documented.flag_eq_ok_iff {b : Bool} :
  d.flag v = .ok b ↔ d.Writes v (.flag b)
  := by
  rw [documented.flag]
  constructor
  · rintro rfl
    apply Decoder.Writes.flag
  · intro writes
    cases writes
    rfl

theorem Decoder.Documented.word_eq_ok_iff {n : Nat} (within : v.InRange) :
  d.word v = .ok n ↔ d.Writes v (.number n)
  := by
  rw [documented.word within]
  constructor
  · rintro rfl
    apply Decoder.Writes.number
  · intro writes
    cases writes
    rfl

theorem Decoder.Documented.count_eq_ok_iff {n : Nat} (within : v.InRange) :
  d.count v = .ok n ↔ d.Writes v (.number n)
  := by
  rw [documented.count within, ← documented.word within]
  apply documented.word_eq_ok_iff within

/-- A value is read as what it stands for. -/
theorem Decoder.Documented.choice_eq_ok_iff (within : v.InRange) :
  d.choice v s = .ok (c.choice s) ↔ d.Writes v (c.choice s)
  := by
  cases s with
  | pageSize | maxPages | initialHeapSize =>
    simp only [Decoder.choice, Config.choice, map_eq_ok_iff, Choice.number.injEq, exists_eq_right]
    apply documented.word_eq_ok_iff within
  | handleCapacity =>
    simp only [Decoder.choice, Config.choice, map_eq_ok_iff, Choice.number.injEq, exists_eq_right]
    apply documented.count_eq_ok_iff within
  | mode =>
    simp only [Decoder.choice, Config.choice, map_eq_ok_iff, Choice.mode.injEq, exists_eq_right]
    apply documented.mode_eq_ok_iff
  | traceAccess | dumpTables =>
    simp only [Decoder.choice, Config.choice, map_eq_ok_iff, Choice.flag.injEq, exists_eq_right]
    apply documented.flag_eq_ok_iff

end Documented

/-! ### Tables -/

/-- Every key of the table is a setting, and its value stands for a choice of that setting. -/
def Fits (d : Decoder ε) (entries : Toml.Entries) : Prop :=
  ∀ e ∈ entries, ∃ s : Setting, s.name = e.1 ∧ ∃ c : Config, d.Writes e.2 (c.choice s)

/-- A configuration makes the choices that the table writes, and elsewhere those of another
configuration. -/
structure Overlays (d : Decoder ε) (base : Config) (entries : Toml.Entries) (c : Config) :
    Prop where
  given : ∀ (s : Setting) (v : Toml.Value), (s.name, v) ∈ entries → d.Writes v (c.choice s)
  kept : ∀ s : Setting, s.name ∉ entries.map Prod.fst → c.choice s = base.choice s

/-- The order of the keys does not matter. -/
theorem Overlays.perm {other : Toml.Entries} (overlays : Overlays d base entries c)
    (same : other.Perm entries) :
  Overlays d base other c
  := by
  constructor
  · intro s v mem
    apply overlays.given s v (same.mem_iff.mp mem)
  · intro s absent
    apply overlays.kept
    rwa [← (same.map Prod.fst).mem_iff]

theorem Fits.perm {other : Toml.Entries} (fits : Fits d entries) (same : other.Perm entries) :
  Fits d other
  := by
  intro e mem
  apply fits e (same.mem_iff.mp mem)

/-! ### Decoding a table -/

section Documented

variable (documented : d.Documented) (regular : Toml.Regular entries)

include documented regular

/-- A table says on every setting what it is. -/
theorem Overlays.unique (h : Overlays d base entries c) (h' : Overlays d base entries c') :
  c = c'
  := by
  apply ext_choice
  intro s
  by_cases given : s.name ∈ entries.map Prod.fst
  · obtain ⟨⟨key, v⟩, mem, rfl⟩ := List.mem_map.mp given
    have within := regular.inRange _ mem
    have read := (documented.choice_eq_ok_iff within).mpr (h.given s v mem)
    have read' := (documented.choice_eq_ok_iff within).mpr (h'.given s v mem)
    rw [read] at read'
    apply Except.ok.inj read'
  · rw [h.kept s given, h'.kept s given]

/-- What is decoded overlays the defaults. -/
theorem overlays_of_config (h : d.config entries = .ok c) :
  Fits d entries ∧ Overlays d {} entries c
  := by
  have written (s : Setting) (v : Toml.Value) (mem : (s.name, v) ∈ entries) :
      d.Writes v (c.choice s) := by
    rw [← documented.choice_eq_ok_iff (regular.inRange _ mem)]
    apply documented.given regular h mem
  constructor
  · rintro ⟨key, v⟩ mem
    obtain ⟨s, rfl⟩ := documented.known regular h _ mem
    use s
    constructor
    · rfl
    · use c
      apply written s v mem
  · use written
    intro s absent
    apply documented.defaulted regular h absent

/-- A table whose values fit their keys is decoded. -/
theorem exists_config_eq_ok (fits : Fits d entries) :
  ∃ c, d.config entries = .ok c
  := by
  apply documented.decodes regular
  intro e mem
  obtain ⟨s, named, c, writes⟩ := fits e mem
  use s, named, c.choice s
  rw [documented.choice_eq_ok_iff (regular.inRange _ mem)]
  apply writes

/-- Decoding finds the configuration that overlays the defaults, if the table fits. -/
theorem config_eq_ok_iff :
  d.config entries = .ok c ↔ Fits d entries ∧ Overlays d {} entries c
  := by
  use overlays_of_config documented regular
  rintro ⟨fits, overlays⟩
  obtain ⟨c', decoded⟩ := exists_config_eq_ok documented regular fits
  rw [decoded]
  congr 1
  apply Overlays.unique documented regular _ overlays
  apply (overlays_of_config documented regular decoded).2

theorem existsUnique_overlays (fits : Fits d entries) :
  ∃! c, Overlays d {} entries c
  := by
  obtain ⟨c, decoded⟩ := exists_config_eq_ok documented regular fits
  have overlays := (overlays_of_config documented regular decoded).2
  use c, overlays
  intro c' overlays'
  apply Overlays.unique documented regular overlays' overlays

end Documented

end VirtualMemory.Config
