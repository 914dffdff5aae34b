import VirtualMemory.Space.Basic
import VirtualMemory.Proofs.Operation.Ends
import Mathlib.Tactic.Use

/-!
# How areas are added and extended

For the addition of an area, and for the growth of one, it is listed how the operation ends:
nothing but a growth that passes every check, and that the mapper accepts, changes the areas.

The heap is the first area and no other one has its number; changes of other areas and new
areas leave it there.
-/

namespace VirtualMemory.AreaList

variable {τ : Type} {c : Config} {id other increment : Nat} {mapper : Mapper τ}
variable {l l' : AreaList} {t t' : τ} {f : Area → Area} {new heap : Area} {others : List Area}

/-! ### Searching and checking -/

theorem ends_find {Q : Area → AreaList → Prop} {R : Error → AreaList → Prop} :
  (find id).Ends l Q R ↔ match l.lookup? id with
    | some a => Q a l
    | none => R (.invalidArea id) l
  := by
  simp only [find, Op.ends_bind, Op.ends_gets]
  cases l.lookup? id with
  | none => rfl
  | some a => rfl

/-- A range cannot belong to an area if it is empty or meets an area with another number. -/
def Blocked (l : AreaList) (id : Nat) (range : Region) : Prop :=
  range.isEmpty = true ∨ (l.meeting? id range).isSome = true

theorem ends_validate {range : Region} {Q : Unit → AreaList → Prop}
    {R : Error → AreaList → Prop} :
  (validate id range).Ends l Q R ↔
    (¬ l.Blocked id range → Q () l) ∧
    (l.Blocked id range → R (.overlap range.start range.stop) l)
  := by
  rw [validate, Blocked]
  split
  · next empty => simp [empty]
  · next some =>
      simp only [Op.ends_bind, Op.ends_gets]
      cases l.meeting? id range with
      | none => simp [some]
      | some a => simp [Op.ends_bind]

/-! ### Addition -/

/-- The ways in which the addition of an area ends. -/
inductive Insertion (new : Area) : AreaList → Except Error Unit → AreaList → Prop
  | taken {l : AreaList} {a : Area} (found : l.lookup? new.id = some a) :
    Insertion new l (.error (.invalidArea new.id)) l
  | blocked {l : AreaList} (absent : l.lookup? new.id = none)
      (blocked : l.Blocked new.id new.range) :
    Insertion new l (.error (.overlap new.start new.stop)) l
  | added {l : AreaList} (absent : l.lookup? new.id = none)
      (vacant : ¬ l.Blocked new.id new.range) :
    Insertion new l (.ok ()) (l.put new)

theorem insert_ends :
  Insertion new l (insert new l).answer (insert new l).state
  := by
  apply Op.ends_iff_answer.mp
  simp only [insert, Op.ends_bind, Op.ends_gets]
  rcases found : l.lookup? new.id with - | a
  · simp only [Op.ends_bind, ends_validate, Op.ends_modify]
    constructor
    · intro vacant
      apply Insertion.added found vacant
    · intro blocked
      apply Insertion.blocked found blocked
  · apply Insertion.taken found

/-- A new area joins those that are there. -/
theorem eq_or_mem_of_mem_put {a : Area} (mem : a ∈ (l.put new).areas) :
  a = new ∨ a ∈ l.areas
  := by
  rcases List.mem_append.mp mem with mem | mem
  · right
    apply (List.takeWhile_sublist _).mem mem
  · rcases List.mem_cons.mp mem with rfl | mem
    · left
      rfl
    · right
      apply (List.dropWhile_sublist _).mem mem

/-! ### Growth -/

/-- The ways in which the growth of an area ends. -/
inductive Growth (c : Config) (id increment : Nat) (mapper : Mapper τ) :
    AreaList × τ → Except Error Region → AreaList × τ → Prop
  | nothing {s : AreaList × τ} (zero : increment = 0) :
    Growth c id increment mapper s (.ok .empty) s
  | noArea {l : AreaList} {t : τ} (absent : l.lookup? id = none) :
    Growth c id increment mapper (l, t) (.error (.invalidArea id)) (l, t)
  | beyond {l : AreaList} {t : τ} {a : Area} (found : l.lookup? id = some a)
      (sum : Word.add? a.stop (c.alignUp increment) = none) :
    Growth c id increment mapper (l, t) (.error (.overlap a.stop Word.greatest)) (l, t)
  | blocked {l : AreaList} {t : τ} {a : Area} {new : Nat} (found : l.lookup? id = some a)
      (sum : Word.add? a.stop (c.alignUp increment) = some new)
      (blocked : l.Blocked id ⟨a.stop, new⟩) :
    Growth c id increment mapper (l, t) (.error (.overlap a.stop new)) (l, t)
  | unmapped {l : AreaList} {t : τ} {a : Area} {new : Nat} {e : Error}
      (found : l.lookup? id = some a)
      (sum : Word.add? a.stop (c.alignUp increment) = some new)
      (vacant : ¬ l.Blocked id ⟨a.stop, new⟩)
      (mapped : (mapper a.stop new t).answer = .error e) :
    Growth c id increment mapper (l, t) (.error .mappingFailed) (l, (mapper a.stop new t).state)
  | grown {l : AreaList} {t : τ} {a : Area} {new : Nat} (found : l.lookup? id = some a)
      (sum : Word.add? a.stop (c.alignUp increment) = some new)
      (vacant : ¬ l.Blocked id ⟨a.stop, new⟩)
      (mapped : (mapper a.stop new t).answer = .ok ()) :
    Growth c id increment mapper (l, t) (.ok ⟨a.stop, new⟩)
      (l.modify id (·.extendTo new), (mapper a.stop new t).state)

theorem grow_ends {s : AreaList × τ} :
  Growth c id increment mapper s (grow c id increment mapper s).answer
    (grow c id increment mapper s).state
  := by
  obtain ⟨l, t⟩ := s
  apply Op.ends_iff_answer.mp
  rw [grow]
  split
  · next zero => apply Growth.nothing zero
  · simp only [Op.ends_bind, Op.ends_onFirst, ends_find]
    rcases found : l.lookup? id with - | a
    · apply Growth.noArea found
    · dsimp only
      rcases sum : Word.add? a.stop (c.alignUp increment) with - | new
      · apply Growth.beyond found sum
      · simp only [Op.ends_bind, Op.ends_onFirst, ends_validate, Op.ends_mapError,
          Op.ends_onFailure, Op.ends_onSecond, Op.ends_emit, Op.ends_modify, Op.ends_pure]
        constructor
        · intro vacant
          rw [Op.Ends]
          rcases mapped : (mapper a.stop new t).answer with e | u
          · apply Growth.unmapped found sum vacant mapped
          · apply Growth.grown found sum vacant mapped
        · intro blocked
          apply Growth.blocked found sum blocked

/-- A growth that fails leaves the areas alone. -/
theorem Growth.areas_eq {s s' : AreaList × τ} {e : Error}
    (h : Growth c id increment mapper s (.error e) s') :
  s'.1 = s.1
  := by
  cases h with
  | noArea absent => rfl
  | beyond found sum => rfl
  | blocked found sum blocked => rfl
  | unmapped found sum vacant mapped => rfl

/-! ### The heap among the areas -/

/-- The first area is the heap, and no other one has its number. -/
structure HasHeap (l : AreaList) (heap : Area) (others : List Area) : Prop where
  areas : l.areas = heap :: others
  id : heap.id = Space.heapId
  others : ∀ a ∈ others, a.id ≠ Space.heapId

namespace HasHeap

theorem lookup? (h : l.HasHeap heap others) :
  l.lookup? Space.heapId = some heap
  := by
  rw [AreaList.lookup?, h.areas, List.takeWhile_cons_of_pos, List.find?_cons_of_pos]
  · simp [h.id]
  · simp [h.id]

/-- The heap may be replaced. -/
theorem replace {heap' : Area} (h : l.HasHeap heap others) (same : heap'.id = heap.id) :
  HasHeap ⟨heap' :: others⟩ heap' others
  := ⟨rfl, same.trans h.id, h.others⟩

theorem modify_heap (h : l.HasHeap heap others) :
  l.modify Space.heapId f = ⟨f heap :: others⟩
  := by
  have kept : others.map (fun a => if a.id = Space.heapId then f a else a) = others := by
    apply (List.map_congr_left _).trans (List.map_id others)
    intro a mem
    rw [if_neg (h.others a mem)]
    rfl
  rw [modify, h.areas, List.map_cons, if_pos h.id, kept]

theorem modify_other (h : l.HasHeap heap others) (ne : id ≠ Space.heapId)
    (same : ∀ a, (f a).id = a.id) :
  (l.modify id f).HasHeap heap (others.map fun a => if a.id = id then f a else a)
  := by
  constructor
  · rw [modify, h.areas, List.map_cons, if_neg]
    rw [h.id]
    apply ne.symm
  · apply h.id
  · intro a mem
    obtain ⟨b, mem_b, rfl⟩ := List.mem_map.mp mem
    split
    · rw [same]
      apply h.others b mem_b
    · apply h.others b mem_b

theorem put (h : l.HasHeap heap others) (ne : new.id ≠ Space.heapId) :
  (l.put new).HasHeap heap ((⟨others⟩ : AreaList).put new).areas
  := by
  have lt : heap.id < new.id := by
    rw [h.id]
    apply Nat.pos_of_ne_zero ne
  constructor
  · simp [AreaList.put, h.areas, lt]
  · apply h.id
  · intro a mem
    rcases eq_or_mem_of_mem_put mem with rfl | mem
    · apply ne
    · apply h.others a mem

end HasHeap

/-- An area that is added, or is not, leaves the heap and the other areas in place. -/
theorem Insertion.exists_heap {l' : AreaList} {answer : Except Error Unit}
    (h : l.HasHeap heap others) (insertion : Insertion new l answer l') :
  ∃ others', l'.HasHeap heap others' ∧ ∀ a ∈ others', a = new ∨ a ∈ others
  := by
  cases insertion with
  | taken found =>
      use others, h
      intro _
      apply Or.inr
  | blocked absent blocked =>
      use others, h
      intro _
      apply Or.inr
  | added absent vacant =>
      have ne : new.id ≠ Space.heapId := by
        intro eq
        rw [eq, h.lookup?] at absent
        cases absent
      apply Exists.intro
      use h.put ne
      intro _
      apply eq_or_mem_of_mem_put

/-- If an area grows, or does not, the heap stays as it is and the others keep their free regions,
or it is the heap that grew. -/
theorem Growth.heap_cases {s s' : AreaList × τ} {answer : Except Error Region}
    (h : s.1.HasHeap heap others) (growth : Growth c id increment mapper s answer s') :
  (∃ others', s'.1.HasHeap heap others' ∧ ∀ a ∈ others', ∃ b ∈ others, a.free = b.free) ∨
  (id = Space.heapId ∧ ∃ stop, Word.add? heap.stop (c.alignUp increment) = some stop ∧
    (mapper heap.stop stop s.2).answer = .ok () ∧ s'.1 = ⟨heap.extendTo stop :: others⟩)
  := by
  have same : ∃ others', s.1.HasHeap heap others' ∧ ∀ a ∈ others', ∃ b ∈ others, a.free = b.free
    := ⟨others, h, fun a mem => ⟨a, mem, rfl⟩⟩
  cases growth with
  | nothing zero => exact Or.inl same
  | noArea absent => exact Or.inl same
  | beyond found sum => exact Or.inl same
  | blocked found sum blocked => exact Or.inl same
  | unmapped found sum vacant mapped => exact Or.inl same
  | @grown l t a stop found sum vacant mapped =>
      by_cases eq : id = Space.heapId
      · right
        subst eq
        rw [h.lookup?] at found
        cases found
        constructor
        · rfl
        · use stop, sum, mapped
          apply h.modify_heap
      · left
        apply Exists.intro
        constructor
        · exact h.modify_other eq fun _ => rfl
        · intro a mem
          obtain ⟨b, mem_b, rfl⟩ := List.mem_map.mp mem
          use b, mem_b
          split
          · rfl
          · rfl

end VirtualMemory.AreaList
