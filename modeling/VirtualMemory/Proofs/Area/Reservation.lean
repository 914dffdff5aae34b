import VirtualMemory.Proofs.Area.Order
import VirtualMemory.Proofs.Config.Geometry

/-!
# What growth reserves

An area that grows by some bytes should get the least number of whole pages that holds them, and
it should grow exactly if there is room for these pages behind it and the mapper accepts them.

The bytes are rounded up on words, and the sum before the rounding is cut at the greatest word.
As long as nothing is cut, growth does what it should.  Otherwise the rounded number is a page
below the bound on words, so it is too small; whole pages for all the bytes would not fit below
the bound, and growth should fail.  It does fail, unless the smaller number of bytes has room
behind the area, which takes an area that ends in the first page.
-/

namespace VirtualMemory.AreaList

variable {τ : Type} {c : Config} {id increment size start stop : Nat} {mapper : Mapper τ}
variable {l : AreaList} {a : Area} {t : τ} {calls : List Region}

/-- The mapper that notes its ranges answers as the mapper does. -/
theorem answer_recorded :
  (mapper.recorded start stop (calls, t)).answer = (mapper start stop t).answer
  := rfl

/-- A range is noted whether it is mapped or not. -/
theorem state_recorded :
  (mapper.recorded start stop (calls, t)).state =
    (calls ++ [⟨start, stop⟩], (mapper start stop t).state)
  := rfl

/-- There is room for more bytes behind an area if they end at a word and no other area meets
them. -/
structure Room (l : AreaList) (a : Area) (size : Nat) : Prop where
  word : a.stop + size < Word.bound
  vacant : ∀ b ∈ l.areas, ∀ address ∈ Region.mk a.stop (a.stop + size), address ∈ b.range →
    b.id = a.id

/-- The answer and the state after a growth that reserves `size` bytes for an increment.

* It succeeds exactly if the area exists, there is room behind it, and the mapper accepts the new
  part.
* It then answers with the new part, which is long enough, moves the end of the area and of its
  part in use, and changes no other area.
* It fails for the lack of the area or of room, or since the mapper refuses, and changes no area.
* The mapper is called once, with the new part, if the area exists and there is room; else it is
  not called. -/
structure Reserves (l : AreaList) (id increment size : Nat) (mapper : Mapper τ) (t : τ)
    (answer : Except Error Region) (after : AreaList × List Region × τ) : Prop where
  succeeds : (∃ part, answer = .ok part) ↔
    ∃ a ∈ l.areas, a.id = id ∧ l.Room a size ∧ (mapper a.stop (a.stop + size) t).answer = .ok ()
  grown : ∀ part, answer = .ok part →
    increment ≤ part.length ∧ ∃ a ∈ l.areas, a.id = id ∧ part = ⟨a.stop, a.stop + size⟩ ∧
      after.1 = l.modify id (·.extendTo (a.stop + size))
  refused : ∀ e, answer = .error e → after.1 = l ∧
    (e = .invalidArea id ∧ (∀ a ∈ l.areas, a.id ≠ id) ∨
      (∃ first last, e = .overlap first last) ∧ (∃ a ∈ l.areas, a.id = id ∧ ¬ l.Room a size) ∨
      e = .mappingFailed ∧ (∃ a ∈ l.areas, a.id = id ∧ l.Room a size))
  called : ∀ a ∈ l.areas, a.id = id → l.Room a size →
    after.2 = ([⟨a.stop, a.stop + size⟩], (mapper a.stop (a.stop + size) t).state)
  uncalled : (∀ a ∈ l.areas, a.id = id → ¬ l.Room a size) → after.2 = ([], t)

/-- The sum before rounding is cut, and what is left has room behind the area. -/
def Shorted (c : Config) (l : AreaList) (id increment : Nat) : Prop :=
  Word.bound < increment + c.pageSize ∧
  ∃ a ∈ l.areas, a.id = id ∧ l.Room a (Word.bound - c.pageSize)

/-- A growth passes the checks exactly if there is room for the rounded bytes. -/
theorem room_iff (pos : 0 < size) :
  l.Room a size ↔
    ∃ stop, Word.add? a.stop size = some stop ∧ ¬ l.Blocked a.id ⟨a.stop, stop⟩
  := by
  constructor
  · intro room
    use a.stop + size
    constructor
    · apply Word.add?_eq_some_iff.mpr ⟨room.word, rfl⟩
    · apply not_blocked_iff.mpr
      use Nat.lt_add_of_pos_right pos
      apply room.vacant
  · rintro ⟨stop, sum, vacant⟩
    obtain ⟨word, rfl⟩ := Word.add?_eq_some_iff.mp sum
    use word
    apply (not_blocked_iff.mp vacant).2

/-- Unless a cut sum is missed, whole pages and rounded bytes have room behind the same areas, and
are the same there.  If a sum is cut, there is room for neither. -/
theorem room_iff_of_not_shorted (page : c.Meets .pageSize) (word : c.pageSize < Word.bound)
    (some : 1 ≤ increment) (least : IsLeast {whole | c.pageSize ∣ whole ∧ increment ≤ whole} size)
    (enough : ¬ Shorted c l id increment) (mem : a ∈ l.areas) (same : a.id = id) :
  (l.Room a size ↔ l.Room a (c.alignUp increment)) ∧
  (l.Room a size → c.alignUp increment = size)
  := by
  have power := page.2.symm
  rcases Nat.lt_or_ge Word.bound (increment + c.pageSize) with cut | uncut
  · have full : ¬ l.Room a size := by
      intro room
      have beyond := Config.bound_le_of_cut power word cut least.1.1 least.1.2
      have below := room.word
      omega
    have full' : ¬ l.Room a (c.alignUp increment) := by
      rw [Config.alignUp_of_cut power word cut]
      intro room
      exact enough ⟨cut, a, mem, same, room⟩
    use iff_of_false full full'
    intro room
    apply absurd room full
  · have eq := (Config.isLeast_alignUp power some uncut).unique least
    rw [eq]
    use Iff.rfl
    intro _
    rfl

/-- The area that is found by its number is the only one with that number. -/
theorem Orderly.eq_of_id_eq {b : Area} (h : l.Orderly) (found : l.lookup? id = some a)
    (mem : b ∈ l.areas) (same : b.id = id) :
  b = a
  := by
  obtain ⟨mem', same'⟩ := (lookup?_eq_some_iff h.ascending).mp found
  apply eq_of_id h.ascending mem mem' (same.trans same'.symm)

/-- What holds of an area with a number holds of the one that is found. -/
theorem Orderly.exists_iff {P : Area → Prop} (h : l.Orderly) (found : l.lookup? id = some a) :
  (∃ b ∈ l.areas, b.id = id ∧ P b) ↔ P a
  := by
  obtain ⟨mem, same⟩ := (lookup?_eq_some_iff h.ascending).mp found
  constructor
  · rintro ⟨b, mem', same', holds⟩
    obtain rfl := h.eq_of_id_eq found mem' same'
    apply holds
  · intro holds
    use a

/-- Without the area nothing is reserved. -/
theorem Reserves.of_absent (absent : ∀ a ∈ l.areas, a.id ≠ id) :
  Reserves l id increment size mapper t (.error (.invalidArea id)) (l, [], t)
  := by
  constructor
  · constructor
    · rintro ⟨part, ok⟩
      cases ok
    · rintro ⟨a, mem, same, -⟩
      exact absurd same (absent a mem)
  · intro part ok
    cases ok
  · intro e error
    cases error
    constructor
    · rfl
    · apply Or.inl ⟨rfl, absent⟩
  · intro a mem same
    exact absurd same (absent a mem)
  · intro _
    rfl

/-- Without room nothing is reserved. -/
theorem Reserves.of_not_room {first last : Nat} (h : l.Orderly) (found : l.lookup? id = some a)
    (full : ¬ l.Room a size) :
  Reserves l id increment size mapper t (.error (.overlap first last)) (l, [], t)
  := by
  constructor
  · rw [h.exists_iff found]
    simp [full]
  · intro part ok
    cases ok
  · intro e error
    cases error
    constructor
    · rfl
    right
    left
    constructor
    · use first, last
    · apply (h.exists_iff found).mpr full
  · intro b mem same room
    obtain rfl := h.eq_of_id_eq found mem same
    exact absurd room full
  · intro _
    rfl

/-- With room the mapper decides. -/
theorem Reserves.of_room (h : l.Orderly) (found : l.lookup? id = some a) (room : l.Room a size)
    (le : increment ≤ size) :
  ((mapper a.stop (a.stop + size) t).answer = .ok () →
    Reserves l id increment size mapper t (.ok ⟨a.stop, a.stop + size⟩)
      (l.modify id (·.extendTo (a.stop + size)), [⟨a.stop, a.stop + size⟩],
        (mapper a.stop (a.stop + size) t).state)) ∧
  (∀ e, (mapper a.stop (a.stop + size) t).answer = .error e →
    Reserves l id increment size mapper t (.error .mappingFailed)
      (l, [⟨a.stop, a.stop + size⟩], (mapper a.stop (a.stop + size) t).state))
  := by
  obtain ⟨mem, same⟩ := (lookup?_eq_some_iff h.ascending).mp found
  constructor
  · intro mapped
    constructor
    · rw [h.exists_iff found]
      simp [room, mapped]
    · intro part ok
      cases ok
      constructor
      · simp only [Region.length, Nat.add_sub_cancel_left]
        apply le
      · use a
    · intro e error
      cases error
    · intro b mem' same' _
      rw [h.eq_of_id_eq found mem' same']
    · intro full
      exact absurd room (full a mem same)
  · intro e failed
    constructor
    · rw [h.exists_iff found]
      simp [failed]
    · intro part ok
      cases ok
    · intro e' error
      cases error
      constructor
      · rfl
      · apply Or.inr (Or.inr ⟨rfl, a, mem, same, room⟩)
    · intro b mem' same' _
      rw [h.eq_of_id_eq found mem' same']
    · intro full
      exact absurd room (full a mem same)

/-- If no cut sum is missed, growth reserves the whole pages. -/
theorem Orderly.reserves (h : l.Orderly) (page : c.Meets .pageSize)
    (word : c.pageSize < Word.bound) (some : 1 ≤ increment)
    (least : IsLeast {whole | c.pageSize ∣ whole ∧ increment ≤ whole} size)
    (enough : ¬ Shorted c l id increment) :
  Reserves l id increment size mapper t
    (grow c id increment mapper.recorded (l, [], t)).answer
    (grow c id increment mapper.recorded (l, [], t)).state
  := by
  have pos : 0 < c.alignUp increment := by
    have two := page.1
    have le := Config.pageSize_le_alignUp (c := c) (n := increment)
    omega
  have rooms {a : Area} (found : l.lookup? id = .some a) :
      (l.Room a size ↔ ∃ stop, Word.add? a.stop (c.alignUp increment) = .some stop ∧
        ¬ l.Blocked id ⟨a.stop, stop⟩) ∧ (l.Room a size → c.alignUp increment = size)
    := by
    obtain ⟨mem, rfl⟩ := (lookup?_eq_some_iff h.ascending).mp found
    obtain ⟨same, eq⟩ := room_iff_of_not_shorted page word some least enough mem rfl
    use same.trans (room_iff pos), eq
  have growth : Growth c id increment mapper.recorded (l, [], t)
      (grow c id increment mapper.recorded (l, [], t)).answer
      (grow c id increment mapper.recorded (l, [], t)).state
    := grow_ends
  generalize (grow c id increment mapper.recorded (l, [], t)).answer = answer at growth ⊢
  generalize (grow c id increment mapper.recorded (l, [], t)).state = after at growth ⊢
  cases growth with
  | nothing zero => omega
  | noArea absent =>
      apply Reserves.of_absent
      intro a mem same
      rw [(lookup?_eq_some_iff h.ascending).mpr ⟨mem, same⟩] at absent
      cases absent
  | beyond found sum =>
      apply Reserves.of_not_room h found
      rw [(rooms found).1, sum]
      rintro ⟨stop, eq, -⟩
      cases eq
  | blocked found sum blocked =>
      apply Reserves.of_not_room h found
      rw [(rooms found).1, sum]
      rintro ⟨stop, eq, vacant⟩
      cases eq
      apply vacant blocked
  | unmapped found sum vacant mapped =>
      have room := (rooms found).1.mpr ⟨_, sum, vacant⟩
      obtain ⟨-, rfl⟩ := Word.add?_eq_some_iff.mp sum
      rw [(rooms found).2 room] at mapped ⊢
      rw [answer_recorded] at mapped
      rw [state_recorded]
      apply (Reserves.of_room h found room least.1.2).2 _ mapped
  | grown found sum vacant mapped =>
      have room := (rooms found).1.mpr ⟨_, sum, vacant⟩
      obtain ⟨-, rfl⟩ := Word.add?_eq_some_iff.mp sum
      rw [(rooms found).2 room] at mapped ⊢
      rw [answer_recorded] at mapped
      rw [state_recorded]
      apply (Reserves.of_room h found room least.1.2).1 mapped

/-- If a cut sum is missed, the mapper is called for less than whole pages, although no area has
room for whole ones. -/
theorem Orderly.not_reserves (h : l.Orderly) (page : c.Meets .pageSize)
    (word : c.pageSize < Word.bound) (some : 1 ≤ increment)
    (least : IsLeast {whole | c.pageSize ∣ whole ∧ increment ≤ whole} size)
    (shorted : Shorted c l id increment) :
  ¬ Reserves l id increment size mapper t
    (grow c id increment mapper.recorded (l, [], t)).answer
    (grow c id increment mapper.recorded (l, [], t)).state
  := by
  obtain ⟨cut, a, mem, rfl, room⟩ := shorted
  have power := page.2.symm
  intro reserves
  have uncalled : (grow c a.id increment mapper.recorded (l, [], t)).state.2 = ([], t) := by
    apply reserves.uncalled
    intro b mem' same room'
    have beyond := Config.bound_le_of_cut power word cut least.1.1 least.1.2
    have below := room'.word
    omega
  rw [← Config.alignUp_of_cut power word cut, room_iff] at room
  · obtain ⟨stop, sum', vacant'⟩ := room
    have found' := (lookup?_eq_some_iff h.ascending).mpr ⟨mem, rfl⟩
    have growth : Growth c a.id increment mapper.recorded (l, [], t)
        (grow c a.id increment mapper.recorded (l, [], t)).answer
        (grow c a.id increment mapper.recorded (l, [], t)).state
      := grow_ends
    generalize (grow c a.id increment mapper.recorded (l, [], t)).answer = answer at growth
    generalize (grow c a.id increment mapper.recorded (l, [], t)).state = after
      at growth uncalled
    cases growth with
    | nothing zero => omega
    | noArea absent => simp [found'] at absent
    | beyond found sum =>
        cases found'.symm.trans found
        simp [sum'] at sum
    | blocked found sum blocked =>
        cases found'.symm.trans found
        cases sum'.symm.trans sum
        exact vacant' blocked
    | unmapped found sum vacant mapped => simp [state_recorded] at uncalled
    | grown found sum vacant mapped => simp [state_recorded] at uncalled
  · have two := page.1
    have le := Config.pageSize_le_alignUp (c := c) (n := increment)
    omega

/-- Growth reserves whole pages for the increment unless the sum before rounding is cut and what
is left of it has room. -/
theorem Built.reserves_iff (built : Built l) (page : c.Meets .pageSize)
    (word : c.pageSize < Word.bound) (some : 1 ≤ increment)
    (least : IsLeast {whole | c.pageSize ∣ whole ∧ increment ≤ whole} size) :
  Reserves l id increment size mapper t
      (grow c id increment mapper.recorded (l, [], t)).answer
      (grow c id increment mapper.recorded (l, [], t)).state ↔
    ¬ Shorted c l id increment
  := by
  constructor
  · intro reserves shorted
    apply built.order.not_reserves page word some least shorted reserves
  · apply built.order.reserves page word some least

/-- With the default settings one byte more for an area reserves a page behind it, but the greatest
word of bytes for an empty area at zero reserves less than that. -/
theorem reserves_default_and_not_greatest :
  Reserves twoAreas 1 1 4096 (fun _ _ => pure ()) ()
    (grow {} 1 1 (Mapper.recorded fun _ _ => pure ()) (twoAreas, [], ())).answer
    (grow {} 1 1 (Mapper.recorded fun _ _ => pure ()) (twoAreas, [], ())).state ∧
  ¬ Reserves (single (.spanning 0 0 0)) 0 Word.greatest Word.bound (fun _ _ => pure ()) ()
    (grow {} 0 Word.greatest (Mapper.recorded fun _ _ => pure ())
      (single (.spanning 0 0 0), [], ())).answer
    (grow {} 0 Word.greatest (Mapper.recorded fun _ _ => pure ())
      (single (.spanning 0 0 0), [], ())).state
  := by
  constructor
  · have built : Built twoAreas := (Built.empty.step (.insert rfl)).step (.insert rfl)
    have least : IsLeast {whole | 4096 ∣ whole ∧ 1 ≤ whole} 4096 := by
      constructor
      · constructor
        · decide
        · decide
      · rintro whole ⟨⟨pages, rfl⟩, le⟩
        omega
    apply (Built.reserves_iff built (by decide) (by decide) (by decide) least).mpr
    rintro ⟨cut, -⟩
    exact absurd cut (by decide)
  · have built : Built (single (.spanning 0 0 0)) := .single (Nat.le_refl 0) rfl
    have least : IsLeast {whole | 4096 ∣ whole ∧ Word.greatest ≤ whole} Word.bound := by
      constructor
      · constructor
        · decide
        · decide
      · rintro whole ⟨⟨pages, rfl⟩, le⟩
        rw [Word.greatest] at le
        rw [Word.bound]
        omega
    rw [Built.reserves_iff built (by decide) (by decide) (by decide) least, not_not]
    constructor
    · decide
    · use .spanning 0 0 0, List.mem_singleton_self _, rfl
      constructor
      · decide
      · intro b mem address inside inside'
        cases List.mem_singleton.mp mem
        rfl

end VirtualMemory.AreaList
