import VirtualMemory.Proofs.Store.Memories
import Mathlib.Data.Set.Insert

/-!
# Custody of places

A place is free, or the place of a page, or outside: in the hands of a running operation, of
someone else, or lost.  Pages are named by an arbitrary type, and `f` tells the place of each.
`Custody out f size m` says that every frame of the memories `m` has exactly one holder, and
that nothing else is held.  Frames change hands one at a time, by taking a free one, giving one
back, and filling or emptying the place of a page.

The contents of a page are the bytes of its place, zero if it has none.  `Kept` says that the
contents of all pages and the bytes of the places outside stay as they are.
-/

namespace VirtualMemory

variable {κ : Type} {out out' : Set Place} {f f' f'' : κ → Option Place} {size : Nat}
variable {m m' m'' : Memories} {x y : Place} {page : κ}

/-- Who may hold a place. -/
inductive Holder (κ : Type)
  /-- The free frames of its store. -/
  | pool
  /-- A page. -/
  | page (page : κ)
  /-- Whoever is outside. -/
  | outside

/-- Whether a place is held by someone. -/
def Holds (out : Set Place) (f : κ → Option Place) (m : Memories) : Holder κ → Place → Prop
  | .pool, x => x.2 ∈ (m x.1).free
  | .page page, x => f page = some x
  | .outside, x => x ∈ out

/-- Every frame is held by exactly one, and nothing else is held. -/
structure Custody (out : Set Place) (f : κ → Option Place) (size : Nat) (m : Memories) : Prop where
  frameSize : ∀ device, (m device).frameSize = size
  capacity : ∀ device, (m device).frameCount ≤ device.capacity
  nodup : ∀ device, (m device).free.Nodup
  isFrame : ∀ holder x, Holds out f m holder x → m.IsFrame x
  exists_holder : ∀ x, m.IsFrame x → ∃ holder, Holds out f m holder x
  unique : ∀ holder holder' x, Holds out f m holder x → Holds out f m holder' x → holder = holder'

namespace Custody

/-- Places that are held by someone are numbers that can be encoded. -/
theorem lt_capacity (h : Custody out f size m) (holder : Holder κ)
    (holds : Holds out f m holder x) :
  1 ≤ x.2 ∧ x.2 < x.1.capacity
  := by
  obtain ⟨pos, lt⟩ := h.isFrame holder x holds
  use pos
  apply lt_of_lt_of_le lt (h.capacity x.1)

/-- One place changes hands. -/
theorem move (h : Custody out f size m) (holder : Holder κ) (frame : m.IsFrame x)
    (frameSize : ∀ device, (m' device).frameSize = (m device).frameSize)
    (count : ∀ device, (m' device).frameCount = (m device).frameCount)
    (nodup : ∀ device, (m' device).free.Nodup)
    (others : ∀ o y, y ≠ x → (Holds out' f' m' o y ↔ Holds out f m o y))
    (here : ∀ o, Holds out' f' m' o x ↔ o = holder) :
  Custody out' f' size m'
  := by
  have isFrame (y : Place) : m'.IsFrame y ↔ m.IsFrame y := by
    rw [Memories.IsFrame, Memories.IsFrame, count]
  constructor
  · intro d
    rw [frameSize, h.frameSize]
  · intro d
    rw [count]
    apply h.capacity
  · apply nodup
  · intro o y holds
    rw [isFrame]
    by_cases eq : y = x
    · rw [eq]
      apply frame
    · apply h.isFrame o y ((others o y eq).mp holds)
  · intro y hy
    by_cases eq : y = x
    · use holder
      rw [eq, here]
    · obtain ⟨o, holds⟩ := h.exists_holder y ((isFrame y).mp hy)
      use o
      apply (others o y eq).mpr holds
  · intro o o' y holds holds'
    by_cases eq : y = x
    · rw [eq, here] at holds holds'
      rw [holds, holds']
    · rw [others o y eq] at holds
      rw [others o' y eq] at holds'
      apply h.unique o o' y holds holds'

/-- Other bytes do not matter. -/
theorem of_sameBut (h : Custody out f size m) {touched : Device → Nat → Prop}
    (same : Memories.SameBut touched m m') :
  Custody out f size m'
  := by
  have holds (o : Holder κ) (x : Place) : Holds out f m' o x ↔ Holds out f m o x := by
    cases o with
    | pool => rw [Holds, Holds, same.free]
    | page page => rfl
    | outside => rfl
  have isFrame (x : Place) : m'.IsFrame x ↔ m.IsFrame x := by
    rw [Memories.IsFrame, Memories.IsFrame, same.frameCount]
  constructor
  · intro d
    rw [same.frameSize, h.frameSize]
  · intro d
    rw [same.frameCount]
    apply h.capacity
  · intro d
    rw [same.free]
    apply h.nodup
  · intro o x held
    rw [isFrame]
    apply h.isFrame o x ((holds o x).mp held)
  · intro x hx
    obtain ⟨o, held⟩ := h.exists_holder x ((isFrame x).mp hx)
    use o
    apply (holds o x).mpr held
  · intro o o' x held held'
    apply h.unique o o' x ((holds o x).mp held) ((holds o' x).mp held')

/-- The place of a page is not outside. -/
theorem not_mem_of_place (h : Custody out f size m) (place : f page = some x) :
  x ∉ out
  := by
  intro mem
  have := h.unique (.page page) .outside x place mem
  cases this

/-- The place of a page is not free. -/
theorem not_free_of_place (h : Custody out f size m) (place : f page = some x) :
  x.2 ∉ (m x.1).free
  := by
  intro mem
  have := h.unique (.page page) .pool x place mem
  cases this

/-- A place outside is not free. -/
theorem not_free_of_mem (h : Custody out f size m) (mem : x ∈ out) :
  x.2 ∉ (m x.1).free
  := by
  intro mem'
  have := h.unique .outside .pool x mem mem'
  cases this

/-- A place outside is the place of no page. -/
theorem place_ne_of_mem (h : Custody out f size m) (mem : x ∈ out) (place : f page = some y) :
  y ≠ x
  := by
  rintro rfl
  apply h.not_mem_of_place place mem

/-- Different pages have different places. -/
theorem page_eq (h : Custody out f size m) {other : κ} (place : f page = some x)
    (place' : f other = some x) :
  page = other
  := by
  have := h.unique (.page page) (.page other) x place place'
  injection this

/-- A free frame was taken out of the pool. -/
theorem acquire (h : Custody out f size m) {rest : List Nat}
    (free : (m x.1).free = x.2 :: rest) :
  x ∉ out ∧ Custody (insert x out) f size (m.withFree x.1 rest)
  := by
  have mem : x.2 ∈ (m x.1).free := by
    rw [free]
    apply List.mem_cons_self
  have nodup := h.nodup x.1
  rw [free] at nodup
  obtain ⟨fresh, nodup⟩ := List.nodup_cons.mp nodup
  have fresh_out : x ∉ out := fun held => h.not_free_of_mem held mem
  use fresh_out
  apply h.move .outside (h.isFrame .pool x mem)
  · intro d
    apply Memories.frameSize_withFree
  · intro d
    apply Memories.frameCount_withFree
  · intro d
    rw [Memories.free_withFree]
    split
    · apply nodup
    · apply h.nodup
  · intro o y ne
    cases o with
    | pool =>
        rw [Holds, Holds, Memories.free_withFree]
        split
        · next eq =>
            have ne' : y.2 ≠ x.2 := fun eq' => ne (Prod.ext eq eq')
            rw [eq, free, List.mem_cons]
            simp [ne']
        · rfl
    | page page => rfl
    | outside => simp [Holds, ne]
  · intro o
    cases o with
    | pool => simp [Holds, Memories.free_withFree, fresh]
    | page page =>
        simp only [Holds, reduceCtorEq, iff_false]
        exact fun place => h.not_free_of_place place mem
    | outside => simp [Holds]

/-- A place outside was given back to the pool. -/
theorem release (h : Custody (insert x out) f size m) (fresh : x ∉ out) :
  Custody out f size (m.withFree x.1 ((m x.1).free ++ [x.2]))
  := by
  have mem : x ∈ insert x out := Set.mem_insert x out
  have used := h.not_free_of_mem mem
  apply h.move .pool (h.isFrame .outside x mem)
  · intro d
    apply Memories.frameSize_withFree
  · intro d
    apply Memories.frameCount_withFree
  · intro d
    rw [Memories.free_withFree]
    split
    · apply (List.perm_append_singleton _ _).nodup_iff.mpr
      apply List.nodup_cons.mpr ⟨used, h.nodup x.1⟩
    · apply h.nodup
  · intro o y ne
    cases o with
    | pool =>
        rw [Holds, Holds, Memories.free_withFree]
        split
        · next eq =>
            have ne' : y.2 ≠ x.2 := fun eq' => ne (Prod.ext eq eq')
            rw [eq, List.mem_append, List.mem_singleton]
            simp [ne']
        · rfl
    | page page => rfl
    | outside => simp [Holds, ne]
  · intro o
    cases o with
    | pool => simp [Holds, Memories.free_withFree]
    | page page =>
        simp only [Holds, reduceCtorEq, iff_false]
        exact fun place => h.not_mem_of_place place mem
    | outside => simp [Holds, fresh]

variable [DecidableEq κ]

/-- The place of a page is taken from it. -/
theorem vacate (h : Custody out f size m) (place : f page = some x) :
  x ∉ out ∧ Custody (insert x out) (Function.update f page none) size m
  := by
  have fresh := h.not_mem_of_place place
  use fresh
  apply h.move .outside (h.isFrame (.page page) x place)
  · intro d
    rfl
  · intro d
    rfl
  · apply h.nodup
  · intro o y ne
    cases o with
    | pool => rfl
    | page other =>
        rw [Holds, Holds, Function.update_apply]
        split
        · next eq =>
            rw [eq, place]
            simp [Ne.symm ne]
        · rfl
    | outside => simp [Holds, ne]
  · intro o
    cases o with
    | pool =>
        simp only [Holds, reduceCtorEq, iff_false]
        apply h.not_free_of_place place
    | page other =>
        simp only [Holds, reduceCtorEq, iff_false, Function.update_apply]
        split
        · exact fun eq => by cases eq
        · next ne => exact fun place' => ne (h.page_eq place' place)
    | outside => simp [Holds]

/-- A place outside is given to a page that has none. -/
theorem occupy (h : Custody (insert x out) f size m) (fresh : x ∉ out) (absent : f page = none) :
  Custody out (Function.update f page (some x)) size m
  := by
  have mem : x ∈ insert x out := Set.mem_insert x out
  apply h.move (.page page) (h.isFrame .outside x mem)
  · intro d
    rfl
  · intro d
    rfl
  · apply h.nodup
  · intro o y ne
    cases o with
    | pool => rfl
    | page other =>
        rw [Holds, Holds, Function.update_apply]
        split
        · next eq =>
            rw [eq, absent]
            simp [Ne.symm ne]
        · rfl
    | outside => simp [Holds, ne]
  · intro o
    cases o with
    | pool =>
        simp only [Holds, reduceCtorEq, iff_false]
        apply h.not_free_of_mem mem
    | page other =>
        simp only [Holds, Function.update_apply]
        split
        · next eq => simp [eq]
        · next ne =>
            simp only [Holder.page.injEq, ne, iff_false]
            exact fun place => h.not_mem_of_place place mem
    | outside => simp [Holds, fresh]

/-- A page gets a place outside, and the place it had is outside instead. -/
theorem relocate (h : Custody (insert y out) f size m) (fresh : y ∉ out)
    (place : f page = some x) :
  x ∉ out ∧ Custody (insert x out) (Function.update f page (some y)) size m
  := by
  obtain ⟨fresh_x, custody⟩ := h.vacate place
  have fresh_y : y ∉ insert x out := by
    rintro (rfl | mem)
    · apply fresh_x (Set.mem_insert _ _)
    · apply fresh mem
  rw [Set.insert_comm] at custody
  have custody' := custody.occupy fresh_y (Function.update_self page none f)
  rw [Function.update_idem] at custody'
  constructor
  · intro mem
    apply fresh_x (Set.mem_insert_of_mem _ mem)
  · apply custody'

end Custody

/-! ### Contents -/

/-- The byte of a page at an offset, zero if the page has no place. -/
def content (f : κ → Option Place) (size : Nat) (m : Memories) (page : κ) (offset : Nat) : UInt8 :=
  match f page with
  | none => 0
  | some x => m.placeByte size x offset

theorem content_of_place {offset : Nat} (place : f page = some x) :
  content f size m page offset = m.placeByte size x offset
  := by
  rw [content, place]

theorem content_of_none {offset : Nat} (absent : f page = none) :
  content f size m page offset = 0
  := by
  rw [content, absent]

/-- The contents of all pages and the bytes of all places outside are the same. -/
structure Kept (out : Set Place) (size : Nat) (f f' : κ → Option Place) (m m' : Memories) :
    Prop where
  size_eq : ∀ device, (m' device).size = (m device).size
  outside : ∀ x ∈ out, ∀ offset < size, m'.placeByte size x offset = m.placeByte size x offset
  content : ∀ page, ∀ offset < size, content f' size m' page offset = content f size m page offset

namespace Kept

theorem refl :
  Kept out size f f m m
  := ⟨fun _ => rfl, fun _ _ _ _ => rfl, fun _ _ _ => rfl⟩

theorem trans (h : Kept out size f f' m m') (h' : Kept out size f' f'' m' m'') :
  Kept out size f f'' m m''
  := by
  constructor
  · intro d
    rw [h'.size_eq, h.size_eq]
  · intro x mem k hk
    rw [h'.outside x mem k hk, h.outside x mem k hk]
  · intro page k hk
    rw [h'.content page k hk, h.content page k hk]

/-- Other free frames do not matter. -/
theorem withFree {device : Device} {free : List Nat} :
  Kept out size f f m (m.withFree device free)
  := by
  constructor
  · intro d
    apply Memories.size_withFree
  · intro x mem k hk
    apply Memories.placeByte_withFree
  · intro page k hk
    rw [VirtualMemory.content, VirtualMemory.content]
    split
    · rfl
    · apply Memories.placeByte_withFree

/-- Other bytes in a place outside do not matter to the others. -/
theorem of_sameBut (custody : Custody (insert x out) f size m) (fresh : x ∉ out)
    (same : Memories.SameBut (Memories.Covers size x) m m') :
  Kept out size f f m m'
  := by
  use same.size
  · intro y mem k hk
    apply same.placeByte _ hk
    rintro rfl
    apply fresh mem
  · intro page k hk
    rw [VirtualMemory.content, VirtualMemory.content]
    split
    · rfl
    · next y place =>
        apply same.placeByte _ hk
        apply custody.place_ne_of_mem (Set.mem_insert x out) place

/-- A page may move to a place with the same bytes. -/
theorem update [DecidableEq κ] {place : Option Place}
    (eq : ∀ offset < size, VirtualMemory.content (fun _ => place) size m page offset =
      VirtualMemory.content f size m page offset) :
  Kept out size f (Function.update f page place) m m
  := by
  constructor
  · intro d
    rfl
  · intro x mem k hk
    rfl
  · intro other k hk
    by_cases same : other = page
    · subst same
      rw [← eq k hk, VirtualMemory.content, VirtualMemory.content, Function.update_self]
    · rw [VirtualMemory.content, VirtualMemory.content, Function.update_of_ne same]

/-- A page may move to a place outside after its bytes were copied there. -/
theorem relocate [DecidableEq κ] (custody : Custody (insert y out) f size m)
    (place : f page = some x) (same : Memories.SameBut (Memories.Covers size y) m m')
    (copied : ∀ offset < size, m'.placeByte size y offset = m.placeByte size x offset) :
  Kept out' size f (Function.update f page (some y)) m' m'
  := by
  apply update
  intro k hk
  have ne : x ≠ y := custody.place_ne_of_mem (Set.mem_insert y out) place
  rw [content_of_place (f := fun _ : κ => some y) rfl, content_of_place place, copied k hk,
    same.placeByte ne hk]

end Kept

end VirtualMemory
