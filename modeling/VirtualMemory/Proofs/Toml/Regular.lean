import VirtualMemory.Toml.Document
import Mathlib.Data.List.Nodup
import Mathlib.Data.Option.Basic

/-!
# What documents yield

The table of a document has each of its keys once, and its integers have 64 bits with a sign:
`regular_of_parse`.  For the readers this is a property of the values that they yield, with one
lemma for each way of building a reader.  For the table under construction it is kept by all that
statements do to it; what changes at the end of a path is a table in the table, so that paths need
no induction.
-/

namespace VirtualMemory.Toml

/-- A value is within the range of its type: an integer has 64 bits with a sign. -/
def Value.InRange : Value → Prop
  | .integer i => -(2 ^ 63) ≤ i ∧ i < 2 ^ 63
  | _ => True

/-- A table with each key once and all values within range. -/
structure Regular (entries : Entries) : Prop where
  distinct : (entries.map Prod.fst).Nodup
  inRange : ∀ e ∈ entries, e.2.InRange

/-- The order of the keys does not matter. -/
theorem Regular.perm {entries other : Entries} (h : Regular entries) (same : other.Perm entries) :
  Regular other
  := ⟨(same.map Prod.fst).nodup_iff.mpr h.distinct, fun e mem => h.inRange e (same.mem_iff.mp mem)⟩

/-! ### Readers -/

namespace Reader

variable {α β : Type} {p q : Reader α} {P : α → Prop} {R : β → Prop}

/-- Every answer of a reader has a property. -/
def Yields (p : Reader α) (P : α → Prop) : Prop :=
  ∀ input a rest, p input = some (a, rest) → P a

theorem yields_pure {a : α} (h : P a) :
  (pure a : Reader α).Yields P
  := by
  rintro input _ rest ⟨⟩
  apply h

theorem yields_failure :
  (failure : Reader α).Yields P
  := by
  rintro input _ rest ⟨⟩

/-- The second reader may rely on what the first one yields. -/
theorem Yields.bind {f : α → Reader β} (first : p.Yields P) (second : ∀ a, P a → (f a).Yields R) :
  (p >>= f).Yields R
  := by
  intro input b rest read
  obtain ⟨⟨a, between⟩, head, tail⟩ := Option.bind_eq_some_iff.mp read
  apply second a (first input a between head) between b rest tail

/-- The second reader decides, whatever the first one yields. -/
theorem yields_bind {f : α → Reader β} (second : ∀ a, (f a).Yields R) :
  (p >>= f).Yields R
  := Yields.bind (P := fun _ => True) (fun _ _ _ _ => trivial) fun a _ => second a

theorem yields_map {f : α → β} (h : p.Yields fun a => R (f a)) :
  (f <$> p).Yields R
  := h.bind fun _ ha => yields_pure ha

theorem Yields.orElse (left : p.Yields P) (right : q.Yields P) :
  (p <|> q).Yields P
  := by
  intro input a rest read
  replace read : (p input <|> q input) = some (a, rest) := read
  rcases (Option.orElse_eq_some _ _ _).mp read with read | ⟨-, read⟩
  · apply left input a rest read
  · apply right input a rest read

theorem yields_ensure {accept : α → Bool} :
  (ensure accept p).Yields fun a => accept a = true
  := by
  refine yields_bind fun a => ?_
  split
  · next h => exact yields_pure h
  · apply yields_failure

/-- What a repeated reader yields consists of what the reader yields. -/
theorem Yields.many (h : p.Yields P) :
  (many p).Yields fun as => ∀ a ∈ as, P a
  := by
  intro input as rest read
  obtain ⟨rfl, -⟩ := Prod.mk.inj (Option.some.inj read)
  clear read
  fun_induction repeated p input with
  | case1 input declines => simp
  | case2 input a rest found shorter as rest' more ih =>
    rw [more] at ih
    simpa using ⟨h input a rest found, ih⟩
  | case3 input a rest found => simp

/-! ### Values -/

theorem integer_yields :
  integer.Yields fun i => (Value.integer i).InRange
  := by
  intro input i rest read
  have accepted := yields_ensure input i rest read
  simpa [Value.InRange] using accepted

theorem scalar_yields :
  scalar.Yields Value.InRange
  := by
  apply Yields.orElse
  · exact yields_map fun _ _ _ _ => trivial
  apply Yields.orElse
  · exact yields_bind fun _ => yields_pure trivial
  apply Yields.orElse
  · exact yields_map fun _ _ _ _ => trivial
  apply Yields.orElse
  · apply yields_map integer_yields
  · exact yields_map fun _ _ _ _ => trivial

theorem array_yields {item : Reader Value} :
  (array item).Yields Value.InRange
  := by
  unfold array
  refine yields_bind fun _ => yields_bind fun _ => yields_bind fun items => yields_bind fun _ => ?_
  split
  · refine yields_bind fun _ => yields_bind fun _ => yields_bind fun _ => yields_pure trivial
  · exact yields_bind fun _ => yields_pure trivial

theorem inlineTable_yields {item : Reader Value} :
  (inlineTable item).Yields Value.InRange
  := by
  unfold inlineTable
  refine yields_bind fun _ => yields_bind fun _ => yields_bind fun _ => yields_bind fun _ => ?_
  split
  · exact yields_pure trivial
  · apply yields_failure

theorem value_yields (depth : Nat) :
  (value depth).Yields Value.InRange
  := by
  cases depth with
  | zero => exact scalar_yields
  | succ depth => exact scalar_yields.orElse (array_yields.orElse inlineTable_yields)

theorem pair_yields {item : Reader Value} (h : item.Yields Value.InRange) :
  (pair item).Yields fun assigned => assigned.2.InRange
  := yields_bind fun _ => yields_bind fun _ => yields_bind fun _ =>
    h.bind fun _ within => yields_bind fun _ => yields_pure within

end Reader

/-! ### Statements -/

namespace Statement

open Reader

/-- The value of a statement, if it has one, is within the range of its type. -/
def InRange : Statement → Prop
  | assign _ v => v.InRange
  | _ => True

theorem readHeader_yields :
  readHeader.Yields InRange
  := by
  apply Yields.orElse
  · exact yields_bind fun _ => yields_bind fun _ => yields_bind fun _ => yields_bind fun _ =>
      yields_pure trivial
  · exact yields_bind fun _ => yields_bind fun _ => yields_bind fun _ => yields_bind fun _ =>
      yields_pure trivial

theorem readAssign_yields :
  readAssign.Yields InRange
  := (pair_yields (value_yields _)).bind fun _ within => yields_bind fun _ => yields_pure within

theorem read?_yields :
  read?.Yields fun line => ∀ statement ∈ line, statement.InRange
  := by
  refine yields_bind fun _ => ?_
  apply Yields.orElse
  · exact yields_bind fun _ => yields_pure (by simp)
  apply Yields.orElse
  · exact yields_bind fun _ => yields_bind fun _ => yields_pure (by simp)
  apply Yields.orElse
  · apply yields_map
    simpa using readHeader_yields
  · refine yields_map ?_
    simpa using readAssign_yields

theorem readAll_yields :
  readAll.Yields fun statements => ∀ statement ∈ statements, statement.InRange
  := by
  refine yields_bind fun _ => read?_yields.many.bind fun lines within => ?_
  refine yields_bind fun _ => yields_bind fun _ => yields_pure ?_
  intro statement mem
  obtain ⟨line, mem, found⟩ := List.mem_filterMap.mp mem
  apply within line mem statement found

end Statement

/-! ### Tables -/

/-- A new key goes behind the others. -/
theorem regular_append {entries : Entries} {key : String} {v : Value} (h : Regular entries)
    (fresh : ∀ e ∈ entries, e.1 ≠ key) (within : v.InRange) :
  Regular (entries ++ [(key, v)])
  := by
  constructor
  · rw [List.map_append, List.nodup_append]
    use h.distinct, List.nodup_singleton key
    intro k mem k' mem'
    obtain ⟨e, old, rfl⟩ := List.mem_map.mp mem
    rw [List.mem_singleton.mp mem']
    apply fresh e old
  · intro e mem
    rcases List.mem_append.mp mem with mem | mem
    · apply h.inRange e mem
    · rw [List.mem_singleton.mp mem]
      apply within

namespace Table

variable {t t' : Table} {key : String} {v : Value}

theorem regular_put (h : Regular t.entries) (within : v.InRange) :
  Regular (t.put key v).entries
  := by
  unfold put
  split
  · next old =>
    constructor
    · have same : (t.entries.map fun e => if e.1 = key then (key, v) else e).map Prod.fst =
          t.entries.map Prod.fst := by
        rw [List.map_map]
        apply List.map_congr_left
        intro e mem
        simp only [Function.comp]
        split
        · next eq => exact eq.symm
        · rfl
      rw [same]
      apply h.distinct
    · intro e mem
      obtain ⟨e', mem', rfl⟩ := List.mem_map.mp mem
      split
      · apply within
      · apply h.inRange e' mem'
  · next fresh =>
    apply regular_append h _ within
    simpa only [List.any_eq_true, decide_eq_true_eq, not_exists, not_and] using fresh

theorem regular_putLast (h : Regular t.entries) (within : v.InRange) :
  Regular (t.putLast key v).entries
  := by
  apply regular_append
  · use h.distinct.sublist (List.filter_sublist.map Prod.fst)
    exact fun e mem => h.inRange e (List.mem_of_mem_filter mem)
  · simp
  · apply within

/-- A table that was changed goes back into the table above it. -/
theorem regular_putBelow {x : Option Table} {back : Table → Value}
    (h : Regular t.entries) (edited : (do let below ← x; some (t.put key (back below))) = some t')
    (within : ∀ below, (back below).InRange) :
  Regular t'.entries
  := by
  obtain ⟨below, -, rest⟩ := Option.bind_eq_some_iff.mp edited
  cases rest
  apply regular_put h (within below)

/-- A change at the end of a path keeps a table regular if the change by itself does: at the end
of a longer path it changes a table in the table. -/
theorem regular_editAt {created : Origin} {edit : Table → Option Table} {path : List String}
    (keeps : ∀ t t', Regular t.entries → edit t = some t' → Regular t'.entries)
    (h : Regular t.entries) (edited : editAt created edit path t = some t') :
  Regular t'.entries
  := by
  cases path with
  | nil => exact keeps t t' h edited
  | cons key path =>
    unfold editAt at edited
    split at edited
    · exact regular_putBelow h edited fun _ => trivial
    · split at edited
      · cases edited
      · exact regular_putBelow h edited fun _ => trivial
    · exact regular_putBelow h edited fun _ => trivial
    · cases edited

theorem regular_add {path : List String} (within : v.InRange) (h : Regular t.entries)
    (added : add path key v t = some t') :
  Regular t'.entries
  := by
  refine regular_editAt (fun t t' h new => ?_) h added
  unfold addNew at new
  split at new
  · cases new
  · split at new
    · cases new
    · cases new
      apply regular_put h within

theorem regular_openTable {path : List String} (h : Regular t.entries)
    (opened : openTable path key t = some t') :
  Regular t'.entries
  := by
  refine regular_editAt (fun t t' h new => ?_) h opened
  split at new
  · cases new
    exact regular_put h trivial
  · cases new
    exact regular_putLast h trivial
  · cases new

theorem regular_openArray {path : List String} (h : Regular t.entries)
    (opened : openArray path key t = some t') :
  Regular t'.entries
  := by
  refine regular_editAt (fun t t' h new => ?_) h opened
  split at new
  · cases new
    exact regular_put h trivial
  · cases new
    exact regular_put h trivial
  · cases new

end Table

/-! ### Documents -/

namespace Document

theorem regular_apply {d d' : Document} {statement : Statement} (within : statement.InRange)
    (h : Regular d.root.entries) (applied : d.apply statement = some d') :
  Regular d'.root.entries
  := by
  cases statement with
  | assign path v =>
    obtain ⟨root, edited, rest⟩ := Option.bind_eq_some_iff.mp applied
    cases rest
    exact Table.regular_editAt (fun _ _ => Table.regular_add within) h edited
  | header path =>
    obtain ⟨root, opened, rest⟩ := Option.bind_eq_some_iff.mp applied
    cases rest
    apply Table.regular_openTable h opened
  | arrayHeader path =>
    obtain ⟨root, opened, rest⟩ := Option.bind_eq_some_iff.mp applied
    cases rest
    apply Table.regular_openArray h opened

theorem regular_foldlM {d d' : Document} {statements : List Statement}
    (within : ∀ statement ∈ statements, statement.InRange) (h : Regular d.root.entries)
    (run : statements.foldlM apply d = some d') :
  Regular d'.root.entries
  := by
  induction statements generalizing d with
  | nil =>
    cases run
    apply h
  | cons statement rest ih =>
    rw [List.forall_mem_cons] at within
    rw [List.foldlM_cons] at run
    obtain ⟨next, applied, run⟩ := Option.bind_eq_some_iff.mp run
    apply ih within.2 (regular_apply within.1 h applied) run

/-- The table of a document is regular. -/
theorem regular_of_parse {text : String} {entries : Entries} (parsed : parse text = some entries) :
  Regular entries
  := by
  obtain ⟨⟨statements, rest⟩, read, run⟩ := Option.bind_eq_some_iff.mp parsed
  obtain ⟨d, carried, last⟩ := Option.bind_eq_some_iff.mp run
  cases last
  have start : Regular empty.root.entries := ⟨List.nodup_nil, by simp [empty]⟩
  exact regular_foldlM (Statement.readAll_yields _ _ _ read) start carried

end Document

end VirtualMemory.Toml
