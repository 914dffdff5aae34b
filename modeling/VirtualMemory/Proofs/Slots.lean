import VirtualMemory.Slots
import Mathlib.Data.List.Sort

/-!
# Sorted slots

The entries of a sparse array that is built from the empty one by filling and emptying slots
are strictly ascending by number.  They are then exactly the pairs that `get?` reads, each once,
and filling a slot replaces one entry or adds one.
-/

namespace VirtualMemory.Slots

variable {α : Type}

/-- The entries are strictly ascending by number. -/
def Sorted (s : Slots α) : Prop := s.entries.Pairwise (·.1 < ·.1)

theorem sorted_empty :
  (empty : Slots α).Sorted
  := List.Pairwise.nil

/-- Whoever is listed after an insertion is the new entry or was listed before. -/
theorem mem_insertEntry {i : Nat} {a : α} {entries : List (Nat × α)} {e : Nat × α}
    (h : e ∈ insertEntry i a entries) :
  e = (i, a) ∨ e ∈ entries
  := by
  induction entries with
  | nil => simpa [insertEntry] using h
  | cons head rest ih =>
      obtain ⟨j, b⟩ := head
      rw [insertEntry] at h
      split at h
      · simpa using h
      · split at h
        · rcases List.mem_cons.mp h with h | h
          · left; apply h
          · right; apply List.mem_cons_of_mem _ h
        · rcases List.mem_cons.mp h with h | h
          · right; rw [h]; apply List.mem_cons_self
          · rcases ih h with h | h
            · left; apply h
            · right; apply List.mem_cons_of_mem _ h

theorem pairwise_insertEntry {i : Nat} {a : α} {entries : List (Nat × α)}
    (h : entries.Pairwise (·.1 < ·.1)) :
  (insertEntry i a entries).Pairwise (·.1 < ·.1)
  := by
  induction entries with
  | nil => simp [insertEntry]
  | cons head rest ih =>
      obtain ⟨j, b⟩ := head
      obtain ⟨hhead, hrest⟩ := List.pairwise_cons.mp h
      rw [insertEntry]
      split
      · next lt =>
          apply List.pairwise_cons.mpr
          constructor
          · intro e he
            rcases List.mem_cons.mp he with rfl | he
            · apply lt
            · apply lt_trans lt (hhead e he)
          · apply h
      · split
        · next eq =>
            subst eq
            apply List.pairwise_cons.mpr
            use hhead, hrest
        · next not_lt ne =>
            apply List.pairwise_cons.mpr
            constructor
            · intro e he
              rcases mem_insertEntry he with rfl | he
              · show j < i
                omega
              · apply hhead e he
            · apply ih hrest

theorem Sorted.insert {s : Slots α} (h : s.Sorted) {i : Nat} {a : α} :
  (s.insert i a).Sorted
  := pairwise_insertEntry h

theorem Sorted.erase {s : Slots α} (h : s.Sorted) {i : Nat} :
  (s.erase i).Sorted
  := List.Pairwise.filter _ h

/-- An entry of sorted slots is what its slot holds. -/
theorem Sorted.mem_iff {s : Slots α} (h : s.Sorted) {i : Nat} {a : α} :
  (i, a) ∈ s.entries ↔ s.get? i = some a
  := by
  obtain ⟨entries⟩ := s
  simp only [Sorted, get?] at h ⊢
  induction entries with
  | nil => simp [findEntry]
  | cons head rest ih =>
      obtain ⟨j, b⟩ := head
      obtain ⟨hhead, hrest⟩ := List.pairwise_cons.mp h
      rw [findEntry, List.mem_cons, ih hrest]
      split
      · next eq =>
          subst eq
          have absent : findEntry i rest ≠ some a := by
            intro found
            have := hhead _ ((ih hrest).mpr found)
            simp at this
          simp [absent, eq_comm]
      · next ne => simp [ne]

/-- There are no more entries than numbers for them. -/
theorem Sorted.length_le {s : Slots α} (h : s.Sorted) {n : Nat} (below : ∀ e ∈ s.entries, e.1 < n) :
  s.entries.length ≤ n
  := by
  have nodup : (s.entries.map Prod.fst).Nodup := by
    apply List.pairwise_map.mpr
    apply h.imp
    intro a b lt
    apply Nat.ne_of_lt lt
  have inside : s.entries.map Prod.fst ⊆ List.range n := by
    intro i listed
    obtain ⟨e, mem, rfl⟩ := List.mem_map.mp listed
    apply List.mem_range.mpr (below e mem)
  have le := (List.subperm_of_subset nodup inside).length_le
  rw [List.length_map, List.length_range] at le
  apply le

/-- Filling a slot keeps what holds of all entries, if it holds of the new one. -/
theorem forall_mem_insert {s : Slots α} {i : Nat} {a : α} {P : Nat × α → Prop}
    (new : P (i, a)) (h : ∀ e ∈ s.entries, P e) :
  ∀ e ∈ (s.insert i a).entries, P e
  := by
  intro e he
  rcases mem_insertEntry he with rfl | he
  · apply new
  · apply h e he

theorem forall_mem_erase {s : Slots α} {i : Nat} {P : Nat × α → Prop}
    (h : ∀ e ∈ s.entries, P e) :
  ∀ e ∈ (s.erase i).entries, P e
  := by
  intro e he
  apply h e (List.mem_of_mem_filter he)

/-- Sorted slots list the content of a filled slot and, apart from it, what is left when the slot
is emptied. -/
theorem Sorted.entries_perm {s : Slots α} (h : s.Sorted) {i : Nat} {a : α}
    (found : s.get? i = some a) :
  s.entries.Perm ((i, a) :: (s.erase i).entries)
  := by
  obtain ⟨entries⟩ := s
  simp only [Sorted, get?, Slots.erase] at h found ⊢
  induction entries with
  | nil => simp [findEntry] at found
  | cons head rest ih =>
      obtain ⟨j, b⟩ := head
      obtain ⟨hhead, hrest⟩ := List.pairwise_cons.mp h
      rw [findEntry] at found
      split at found
      · next eq =>
          subst eq
          obtain rfl := Option.some.inj found
          have others : rest.filter (fun e => decide (e.1 ≠ i)) = rest := by
            apply List.filter_eq_self.mpr
            intro e he
            have := hhead e he
            simp only [decide_eq_true_eq]
            omega
          simp only [List.filter_cons, ne_eq, not_true_eq_false, decide_false, others]
          apply List.Perm.refl
      · next ne =>
          have kept : decide (j ≠ i) = true := by
            simp only [decide_eq_true_eq]
            omega
          rw [List.filter_cons, if_pos kept]
          apply List.Perm.trans (List.Perm.cons _ (ih hrest found))
          apply List.Perm.swap

theorem erase_insert_entries {s : Slots α} {i : Nat} {a : α} :
  ((s.insert i a).erase i).entries = (s.erase i).entries
  := by
  obtain ⟨entries⟩ := s
  simp only [insert, erase]
  induction entries with
  | nil => simp [insertEntry]
  | cons head rest ih =>
      obtain ⟨j, b⟩ := head
      rw [insertEntry]
      split
      · next lt => simp
      · split
        · next eq => subst eq; simp
        · next ne => simp only [List.filter_cons, ih]

theorem erase_entries_of_none {s : Slots α} {i : Nat} (h : s.get? i = none) :
  (s.erase i).entries = s.entries
  := by
  obtain ⟨entries⟩ := s
  simp only [get?, erase] at h ⊢
  apply List.filter_eq_self.mpr
  induction entries with
  | nil => simp
  | cons head rest ih =>
      obtain ⟨j, b⟩ := head
      rw [findEntry] at h
      split at h
      · cases h
      · next ne =>
          intro e he
          rcases List.mem_cons.mp he with rfl | he
          · simp only [decide_eq_true_eq]
            omega
          · apply ih h e he

/-- Filling a slot lists its new content in place of its old one. -/
theorem Sorted.insert_perm {s : Slots α} (h : s.Sorted) {i : Nat} {a : α} :
  (s.insert i a).entries.Perm ((i, a) :: (s.erase i).entries)
  := by
  have found : (s.insert i a).get? i = some a := by rw [get?_insert, if_pos rfl]
  have perm := h.insert.entries_perm found
  rw [erase_insert_entries] at perm
  apply perm

end VirtualMemory.Slots
