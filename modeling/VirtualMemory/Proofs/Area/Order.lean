import VirtualMemory.Proofs.Area.Growth
import Mathlib.Data.List.Nodup
import Mathlib.Data.List.TakeWhile

/-!
# The order of areas

However a list of areas is built by additions and growth, the numbers of the areas ascend, every
area is in use up to its end, and no address lies in two areas; whatever is tried next, no area
disappears, moves its start or shrinks.  The searches are therefore exact: the one by number
may stop at the first greater number, and the first area found for an address is the only one.

What is added is checked against all areas of other numbers.  What an area grows by is checked as
well, but the grown area is not: that it meets no other area follows since the old part met none.
-/

namespace VirtualMemory.AreaList

variable {l l' : AreaList} {a b new : Area} {areas : List Area} {id increment address stop : Nat}
variable {range : Region} {c : Config} {τ : Type} {mapper : Mapper τ}

/-! ### Searching -/

/-- In a list with ascending numbers an area has its own number alone. -/
theorem eq_of_id (ascending : areas.Pairwise (·.id < ·.id)) (mem : a ∈ areas) (mem' : b ∈ areas)
    (same : a.id = b.id) :
  a = b
  := by
  have distinct : (areas.map Area.id).Nodup := by
    apply List.pairwise_map.mpr
    apply ascending.imp
    intro a b lt
    apply Nat.ne_of_lt lt
  apply List.inj_on_of_nodup_map distinct mem mem' same

/-- The search that stops at the first greater number finds what is there. -/
theorem lookup?_eq_some_iff (ascending : l.areas.Pairwise (·.id < ·.id)) :
  l.lookup? id = some a ↔ a ∈ l.areas ∧ a.id = id
  := by
  constructor
  · intro found
    constructor
    · apply (List.takeWhile_sublist _).mem (List.mem_of_find?_eq_some found)
    · simpa using List.find?_some found
  · rintro ⟨mem, rfl⟩
    rw [lookup?]
    generalize l.areas = areas at ascending mem
    induction areas with
    | nil => cases mem
    | cons b rest ih =>
        obtain ⟨above, ascending⟩ := List.pairwise_cons.mp ascending
        rcases List.mem_cons.mp mem with rfl | mem
        · rw [List.takeWhile_cons_of_pos, List.find?_cons_of_pos]
          · simp
          · simp
        · have lt := above a mem
          rw [List.takeWhile_cons_of_pos, List.find?_cons_of_neg]
          · apply ih ascending mem
          · simp [Nat.ne_of_lt lt]
          · simp [Nat.le_of_lt lt]

/-- A range is not blocked if it has addresses and meets at most the area with its number. -/
theorem not_blocked_iff :
  ¬ l.Blocked id range ↔
    range.start < range.stop ∧
    ∀ a ∈ l.areas, ∀ address ∈ range, address ∈ a.range → a.id = id
  := by
  have some : ¬ range.isEmpty = true ↔ range.start < range.stop := by
    simp [Region.isEmpty]
  have vacant : ¬ (l.meeting? id range).isSome = true ↔
      ∀ a ∈ l.areas, ∀ address ∈ range, address ∈ a.range → a.id = id
    := by
    rw [meeting?, List.find?_isSome]
    simp only [Bool.and_eq_true, decide_eq_true_eq, Region.overlaps_iff]
    constructor
    · intro none a mem address inside meets
      by_contra other
      apply none
      use a, mem, other, address, meets
    · rintro only ⟨a, mem, other, address, meets, inside⟩
      apply other (only a mem address inside meets)
  rw [Blocked, not_or, some, vacant]

/-! ### Order -/

/-- The numbers ascend, every area is in use up to its end, and no address lies in two areas. -/
structure Orderly (l : AreaList) : Prop where
  ascending : l.areas.Pairwise (·.id < ·.id)
  spanned : ∀ a ∈ l.areas, a.start ≤ a.stop ∧ a.brk = a.stop
  apart : ∀ a ∈ l.areas, ∀ b ∈ l.areas, ∀ address, address ∈ a.range → address ∈ b.range → a = b

/-- Every area is still there, starts where it did, and ends there or further up. -/
def Extends (l l' : AreaList) : Prop :=
  ∀ a ∈ l.areas, ∃ a' ∈ l'.areas, a'.id = a.id ∧ a'.start = a.start ∧ a.stop ≤ a'.stop

/-- A list with all areas of another one extends it. -/
theorem Extends.of_subset (h : l.areas ⊆ l'.areas) :
  l.Extends l'
  := fun a mem => ⟨a, h mem, rfl, rfl, Nat.le_refl _⟩

theorem Extends.refl :
  l.Extends l
  := Extends.of_subset (List.Subset.refl _)

/-- An orderly list that did not change is orderly, and an extension of itself. -/
theorem Orderly.unmoved (h : l.Orderly) :
  l.Orderly ∧ l.Extends l
  := by
  use h
  apply Extends.refl

theorem Extends.trans {l'' : AreaList} (h : l.Extends l') (h' : l'.Extends l'') :
  l.Extends l''
  := by
  intro a mem
  obtain ⟨b, mem_b, id_eq, start_eq, le⟩ := h a mem
  obtain ⟨d, mem_d, id_eq', start_eq', le'⟩ := h' b mem_b
  use d, mem_d, id_eq'.trans id_eq, start_eq'.trans start_eq
  apply Nat.le_trans le le'

theorem orderly_empty :
  empty.Orderly
  := ⟨List.Pairwise.nil, by simp [empty], by simp [empty]⟩

theorem orderly_single (le : a.start ≤ a.stop) (used : a.brk = a.stop) :
  (single a).Orderly
  := by
  constructor
  · apply List.pairwise_singleton
  · simp [single, le, used]
  · simp [single]

/-- At most one area covers an address, so the first one is that one. -/
theorem Orderly.covering?_eq_some_iff (h : l.Orderly) :
  l.covering? address = some a ↔ a ∈ l.areas ∧ address ∈ a.range
  := by
  constructor
  · intro found
    constructor
    · apply List.mem_of_find?_eq_some found
    · simpa using List.find?_some found
  · rintro ⟨mem, inside⟩
    have some : (l.covering? address).isSome = true := by
      rw [covering?, List.find?_isSome]
      use a, mem
      simpa using inside
    obtain ⟨b, found⟩ := Option.isSome_iff_exists.mp some
    have inside' : address ∈ b.range := by simpa using List.find?_some found
    obtain rfl := h.apart a mem b (List.mem_of_find?_eq_some found) address inside inside'
    apply found

/-! ### Addition -/

theorem mem_put :
  a ∈ (l.put new).areas ↔ a = new ∨ a ∈ l.areas
  := by
  conv_rhs => rw [← List.takeWhile_append_dropWhile (p := (·.id < new.id)) (l := l.areas)]
  simp only [put, List.mem_append, List.mem_cons]
  tauto

/-- Behind the place of a number there are only greater ones, if it has none itself. -/
theorem lt_of_mem_dropWhile (ascending : areas.Pairwise (·.id < ·.id))
    (absent : ∀ a ∈ areas, a.id ≠ id) (mem : b ∈ areas.dropWhile (·.id < id)) :
  id < b.id
  := by
  induction areas with
  | nil => cases mem
  | cons a rest ih =>
      obtain ⟨above, ascending⟩ := List.pairwise_cons.mp ascending
      by_cases lt : a.id < id
      · rw [List.dropWhile_cons_of_pos (by simpa using lt)] at mem
        apply ih ascending (fun a mem => absent a (List.mem_cons_of_mem _ mem)) mem
      · have ne := absent a List.mem_cons_self
        rw [List.dropWhile_cons_of_neg (by simpa using lt)] at mem
        rcases List.mem_cons.mp mem with rfl | mem
        · omega
        · have lt' := above b mem
          omega

/-- A new number goes to the one place where the numbers still ascend. -/
theorem ascending_put (ascending : l.areas.Pairwise (·.id < ·.id))
    (absent : ∀ a ∈ l.areas, a.id ≠ new.id) :
  (l.put new).areas.Pairwise (·.id < ·.id)
  := by
  have before : ∀ a ∈ l.areas.takeWhile (·.id < new.id), a.id < new.id := by
    intro a mem
    simpa using List.mem_takeWhile_imp mem
  have behind : ∀ b ∈ l.areas.dropWhile (·.id < new.id), new.id < b.id := by
    intro b mem
    apply lt_of_mem_dropWhile ascending absent mem
  rw [put, List.pairwise_append, List.pairwise_cons]
  use ascending.sublist (List.takeWhile_sublist _)
  constructor
  · use behind
    apply ascending.sublist (List.dropWhile_sublist _)
  · intro a mem b mem'
    rcases List.mem_cons.mp mem' with rfl | mem'
    · apply before a mem
    · apply Nat.lt_trans (before a mem) (behind b mem')

theorem Orderly.put (h : l.Orderly) (used : new.brk = new.stop)
    (absent : l.lookup? new.id = none) (vacant : ¬ l.Blocked new.id new.range) :
  (l.put new).Orderly
  := by
  obtain ⟨lt, alone⟩ := not_blocked_iff.mp vacant
  have fresh : ∀ a ∈ l.areas, a.id ≠ new.id := by
    intro a mem same
    rw [(lookup?_eq_some_iff h.ascending).mpr ⟨mem, same⟩] at absent
    cases absent
  use ascending_put h.ascending fresh
  · intro a mem
    rcases mem_put.mp mem with rfl | mem
    · use Nat.le_of_lt lt, used
    · apply h.spanned a mem
  · intro a mem_a b mem_b address inside inside'
    rcases mem_put.mp mem_a with eq | mem
    · rcases mem_put.mp mem_b with eq' | mem'
      · rw [eq, eq']
      · rw [eq] at inside
        exact absurd (alone b mem' address inside inside') (fresh b mem')
    · rcases mem_put.mp mem_b with eq' | mem'
      · rw [eq'] at inside'
        exact absurd (alone a mem address inside' inside) (fresh a mem)
      · apply h.apart a mem b mem' address inside inside'

/-! ### Growth -/

/-- An area of the changed list is an area of the old one, changed if it has the number. -/
theorem mem_modify {f : Area → Area} :
  b ∈ (l.modify id f).areas ↔ ∃ a ∈ l.areas, (if a.id = id then f a else a) = b
  := List.mem_map

/-- The grown area meets no other one: not in its old part, where it met none, and not in the new
one, which was checked. -/
theorem Orderly.eq_of_mem_extendTo (h : l.Orderly) (mem : a ∈ l.areas) (mem' : b ∈ l.areas)
    (vacant : ¬ l.Blocked a.id ⟨a.stop, stop⟩) (inside : address ∈ (a.extendTo stop).range)
    (inside' : address ∈ b.range) :
  a = b
  := by
  by_cases old : address < a.stop
  · apply h.apart a mem b mem' address ⟨inside.1, old⟩ inside'
  · have added : address ∈ (⟨a.stop, stop⟩ : Region) := ⟨Nat.le_of_not_lt old, inside.2⟩
    have same := (not_blocked_iff.mp vacant).2 b mem' address added inside'
    apply eq_of_id h.ascending mem mem' same.symm

theorem Orderly.extendTo (h : l.Orderly) (found : l.lookup? id = some a)
    (vacant : ¬ l.Blocked id ⟨a.stop, stop⟩) :
  (l.modify id (·.extendTo stop)).Orderly
  := by
  obtain ⟨mem, rfl⟩ := (lookup?_eq_some_iff h.ascending).mp found
  have lt : a.stop < stop := (not_blocked_iff.mp vacant).1
  constructor
  · apply List.pairwise_map.mpr
    apply h.ascending.imp
    intro x y lt
    split
    · split
      · apply lt
      · apply lt
    · split
      · apply lt
      · apply lt
  · intro x' mem_x'
    obtain ⟨x, mem_x, rfl⟩ := mem_modify.mp mem_x'
    split
    · next same =>
        obtain rfl := eq_of_id h.ascending mem_x mem same
        use Nat.le_trans (h.spanned x mem).1 (Nat.le_of_lt lt)
        rfl
    · apply h.spanned x mem_x
  · intro x' mem_x' y' mem_y' address inside inside'
    obtain ⟨x, mem_x, rfl⟩ := mem_modify.mp mem_x'
    obtain ⟨y, mem_y, rfl⟩ := mem_modify.mp mem_y'
    by_cases same : x.id = a.id
    · obtain rfl := eq_of_id h.ascending mem_x mem same
      by_cases same' : y.id = x.id
      · rw [eq_of_id h.ascending mem_y mem same']
      · rw [if_pos rfl] at inside
        rw [if_neg same'] at inside'
        obtain rfl := h.eq_of_mem_extendTo mem mem_y vacant inside inside'
        exact absurd rfl same'
    · rw [if_neg same] at inside
      by_cases same' : y.id = a.id
      · obtain rfl := eq_of_id h.ascending mem_y mem same'
        rw [if_pos rfl] at inside'
        obtain rfl := h.eq_of_mem_extendTo mem mem_x vacant inside' inside
        exact absurd rfl same
      · rw [if_neg same'] at inside'
        rw [if_neg same, if_neg same']
        apply h.apart x mem_x y mem_y address inside inside'

theorem Orderly.extends_extendTo (h : l.Orderly) (found : l.lookup? id = some a)
    (le : a.stop ≤ stop) :
  l.Extends (l.modify id (·.extendTo stop))
  := by
  obtain ⟨mem, rfl⟩ := (lookup?_eq_some_iff h.ascending).mp found
  intro x mem_x
  apply Exists.intro
  use mem_modify.mpr ⟨x, mem_x, rfl⟩
  split
  · next same =>
      obtain rfl := eq_of_id h.ascending mem_x mem same
      use rfl, rfl
      apply le
  · use rfl, rfl, Nat.le_refl _

/-! ### Free regions -/

/-- The free regions of the first area do not matter for the order. -/
theorem Orderly.withFree {others : List Area} {free : List Region}
    (h : (⟨a :: others⟩ : AreaList).Orderly) :
  (⟨{ a with free := free } :: others⟩ : AreaList).Orderly ∧
  (⟨a :: others⟩ : AreaList).Extends ⟨{ a with free := free } :: others⟩
  := by
  obtain ⟨above, ascending⟩ := List.pairwise_cons.mp h.ascending
  have other : ∀ b ∈ others, ∀ address ∈ a.range, address ∉ b.range := by
    intro b mem address inside inside'
    have same := h.apart a List.mem_cons_self b (List.mem_cons_of_mem _ mem) address inside inside'
    have lt := above b mem
    rw [same] at lt
    exact Nat.lt_irrefl _ lt
  constructor
  · use List.pairwise_cons.mpr ⟨above, ascending⟩
    · intro b mem
      rcases List.mem_cons.mp mem with rfl | mem
      · exact h.spanned a List.mem_cons_self
      · exact h.spanned b (List.mem_cons_of_mem _ mem)
    · intro x mem_x y mem_y address inside inside'
      rcases List.mem_cons.mp mem_x with rfl | mem
      · rcases List.mem_cons.mp mem_y with rfl | mem'
        · rfl
        · exact absurd inside' (other y mem' address inside)
      · rcases List.mem_cons.mp mem_y with rfl | mem'
        · exact absurd inside (other x mem address inside')
        · exact h.apart x (List.mem_cons_of_mem _ mem) y (List.mem_cons_of_mem _ mem') address
            inside inside'
  · intro b mem
    rcases List.mem_cons.mp mem with rfl | mem
    · apply Exists.intro
      use List.mem_cons_self, rfl, rfl, Nat.le_refl _
    · use b, List.mem_cons_of_mem _ mem, rfl, rfl, Nat.le_refl _

theorem Orderly.enlistFree {others : List Area} {r : Region}
    (h : (⟨a :: others⟩ : AreaList).Orderly) :
  (⟨a.enlistFree r :: others⟩ : AreaList).Orderly ∧
  (⟨a :: others⟩ : AreaList).Extends ⟨a.enlistFree r :: others⟩
  := by
  rw [Area.enlistFree]
  split
  · apply h.unmoved
  · apply h.withFree

/-! ### Runs -/

/-- An area in use up to its end is added, or an area grows, successfully or not; whatever backs
the growth may fail. -/
inductive Step : AreaList → AreaList → Prop
  | insert {l : AreaList} {new : Area} (used : new.brk = new.stop) :
    Step l (insert new l).state
  | grow {l : AreaList} {τ : Type} (c : Config) (id increment : Nat) (mapper : Mapper τ) (t : τ) :
    Step l (grow c id increment mapper (l, t)).state.1

/-- The lists that additions and growth make of no area, or of one. -/
inductive Built : AreaList → Prop
  | empty : Built empty
  | single {heap : Area} (le : heap.start ≤ heap.stop) (used : heap.brk = heap.stop) :
    Built (single heap)
  | step {l l' : AreaList} (built : Built l) (step : Step l l') : Built l'

theorem Orderly.insertion {answer : Except Error Unit} (h : l.Orderly)
    (used : new.brk = new.stop) (insertion : Insertion new l answer l') :
  l'.Orderly ∧ l.Extends l'
  := by
  cases insertion with
  | taken found => apply h.unmoved
  | blocked absent blocked => apply h.unmoved
  | added absent vacant =>
      use h.put used absent vacant
      apply Extends.of_subset
      intro a mem
      apply mem_put.mpr (Or.inr mem)

theorem Orderly.growth {s s' : AreaList × τ} {answer : Except Error Region} (h : s.1.Orderly)
    (growth : Growth c id increment mapper s answer s') :
  s'.1.Orderly ∧ s.1.Extends s'.1
  := by
  cases growth with
  | nothing zero => apply h.unmoved
  | noArea absent => apply h.unmoved
  | beyond found sum => apply h.unmoved
  | blocked found sum blocked => apply h.unmoved
  | unmapped found sum vacant mapped => apply h.unmoved
  | grown found sum vacant mapped =>
      use h.extendTo found vacant
      apply h.extends_extendTo found (Nat.le_of_lt (not_blocked_iff.mp vacant).1)

/-- A step keeps the order and all areas. -/
theorem Orderly.step (h : l.Orderly) (step : Step l l') :
  l'.Orderly ∧ l.Extends l'
  := by
  cases step with
  | insert used => apply h.insertion used insert_ends
  | grow c id increment mapper t => apply h.growth (s := (l, t)) grow_ends

theorem Built.order (built : Built l) :
  l.Orderly
  := by
  induction built with
  | empty => apply orderly_empty
  | single le used => apply orderly_single le used
  | step built step ih => apply (ih.step step).1

/-- Every list that is built is in order, a step keeps all its areas, and the searches by number,
by address and for a range that is met find what there is. -/
theorem Built.orderly (built : Built l) :
  l.Orderly ∧
  (∀ l', Step l l' → l.Extends l') ∧
  (∀ id a, l.lookup? id = some a ↔ a ∈ l.areas ∧ a.id = id) ∧
  (∀ address a, l.covering? address = some a ↔ a ∈ l.areas ∧ address ∈ a.range) ∧
  (∀ id range, (validate id range l).answer = .ok () ↔
    range.start < range.stop ∧
    ∀ a ∈ l.areas, ∀ address ∈ range, address ∈ a.range → a.id = id)
  := by
  have h := built.order
  use h
  constructor
  · intro l' step
    apply (h.step step).2
  constructor
  · intro id a
    apply lookup?_eq_some_iff h.ascending
  constructor
  · intro address a
    apply h.covering?_eq_some_iff
  · intro id range
    rw [← not_blocked_iff]
    have ends : (validate id range).Ends l (fun _ _ => ¬ l.Blocked id range)
        (fun _ _ => l.Blocked id range)
      := ends_validate.mpr ⟨fun h => h, fun h => h⟩
    rw [Op.Ends] at ends
    split at ends
    · next ok => simp [ok, ends]
    · next error => simp [error, ends]

/-- Two areas, the one with the greater number added first. -/
def twoAreas : AreaList :=
  (insert (.spanning 1 0x1000 0x2000) (insert (.spanning 4 0x4000 0x5000) empty).state).state

/-- The searches in a list of two areas. -/
theorem orderly_twoAreas :
  Built twoAreas ∧
  twoAreas.lookup? 4 = some (.spanning 4 0x4000 0x5000) ∧
  twoAreas.covering? 0x1fff = some (.spanning 1 0x1000 0x2000) ∧
  (validate 1 ⟨0x2000, 0x4000⟩ twoAreas).answer = .ok ()
  := by
  have built : Built twoAreas := (Built.empty.step (.insert rfl)).step (.insert rfl)
  obtain ⟨-, -, lookup, covering, validate⟩ := Built.orderly built
  use built
  constructor
  · apply (lookup 4 _).mpr
    decide
  constructor
  · apply (covering 0x1fff _).mpr
    decide
  · apply (validate 1 _).mpr
    constructor
    · decide
    · intro a mem address inside inside'
      have eq : twoAreas.areas = [.spanning 1 0x1000 0x2000, .spanning 4 0x4000 0x5000] := by
        decide
      rw [eq] at mem
      rcases List.mem_pair.mp mem with rfl | rfl
      · rfl
      · exact absurd (Nat.lt_of_lt_of_le inside.2 inside'.1) (Nat.lt_irrefl _)

end VirtualMemory.AreaList
