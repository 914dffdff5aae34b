import VirtualMemory.Area.Basic
import Mathlib.Algebra.Ring.Nat
import Mathlib.Tactic.Use

/-!
# Regions side by side

Regions tile a part of the addresses below a limit if none is empty, none ends above the limit
and no two share an address; the number of addresses that they tile is then the sum of their
lengths.  The order of the regions does not matter, a region may be cut in two, and a region at
the limit may be added when the limit is raised.  Taking bytes from the first region that has
enough is such a cut, or none.
-/

namespace VirtualMemory

variable {limit limit' total size middle : Nat} {r s taken : Region} {live free left : List Region}
variable {regions regions' : List Region}

/-- Two regions share no address. -/
def Region.Apart (r s : Region) : Prop := ∀ address ∈ r, address ∉ s

theorem Region.Apart.symm (h : r.Apart s) :
  s.Apart r
  := fun address mem mem' => h address mem' mem

/-- The regions are not empty, end below a limit, share no addresses and have so many addresses
together. -/
structure Tiling (limit total : Nat) (regions : List Region) : Prop where
  inside : ∀ r ∈ regions, r.start < r.stop ∧ r.stop ≤ limit
  apart : regions.Pairwise Region.Apart
  total : (regions.map Region.length).sum = total

namespace Tiling

theorem nil :
  Tiling limit 0 []
  := by
  constructor
  · intro r mem
    cases mem
  · apply List.Pairwise.nil
  · rfl

theorem perm (h : Tiling limit total regions) (p : regions.Perm regions') :
  Tiling limit total regions'
  := by
  constructor
  · intro r mem
    apply h.inside r (p.mem_iff.mpr mem)
  · apply (p.pairwise_iff Region.Apart.symm).mp h.apart
  · rw [← (p.map Region.length).sum_nat]
    apply h.total

/-- The limit may be raised. -/
theorem mono (h : Tiling limit total regions) (le : limit ≤ limit') :
  Tiling limit' total regions
  := by
  constructor
  · intro r mem
    obtain ⟨lt, below⟩ := h.inside r mem
    use lt
    apply Nat.le_trans below le
  · apply h.apart
  · apply h.total

/-- The addresses from the limit up to a higher limit may be added. -/
theorem extend (h : Tiling limit total regions) (lt : limit < limit') :
  Tiling limit' (total + (limit' - limit)) (⟨limit, limit'⟩ :: regions)
  := by
  constructor
  · intro r mem
    rcases List.mem_cons.mp mem with rfl | mem
    · use lt, Nat.le_refl _
    · apply (h.mono (Nat.le_of_lt lt)).inside r mem
  · apply List.pairwise_cons.mpr
    constructor
    · rintro r mem address ⟨le, -⟩ ⟨-, below⟩
      have := (h.inside r mem).2
      dsimp only at le
      omega
    · apply h.apart
  · rw [List.map_cons, List.sum_cons, h.total, Nat.add_comm, Region.length]

/-- A region may be cut in two. -/
theorem cut (h : Tiling limit total (r :: regions)) (lower : r.start < middle)
    (upper : middle < r.stop) :
  Tiling limit total (⟨r.start, middle⟩ :: ⟨middle, r.stop⟩ :: regions)
  := by
  obtain ⟨apart, rest⟩ := List.pairwise_cons.mp h.apart
  have below := (h.inside r List.mem_cons_self).2
  constructor
  · intro s mem
    rcases List.mem_cons.mp mem with rfl | mem
    · use lower
      dsimp only
      omega
    · rcases List.mem_cons.mp mem with rfl | mem
      · use upper, below
      · apply h.inside s (List.mem_cons_of_mem _ mem)
  · apply List.pairwise_cons.mpr
    constructor
    · rintro s mem address ⟨le, lt⟩
      dsimp only at le lt
      rcases List.mem_cons.mp mem with rfl | mem
      · rintro ⟨le', -⟩
        dsimp only at le'
        omega
      · apply apart s mem address
        use le
        apply Nat.lt_trans lt upper
    · apply List.pairwise_cons.mpr
      constructor
      · rintro s mem address ⟨le, lt⟩
        dsimp only at le lt
        apply apart s mem address
        use Nat.le_trans (Nat.le_of_lt lower) le, lt
      · apply rest
  · rw [← h.total]
    simp only [List.map_cons, List.sum_cons, Region.length]
    omega

end Tiling

/-- Bytes are taken from one of the regions, and what is left of it stays, if anything. -/
theorem exists_of_firstFit? (fit : firstFit? size free = some (taken, left)) :
  ∃ r rest, free.Perm (r :: rest) ∧ size ≤ r.length ∧ taken = ⟨r.start, r.start + size⟩ ∧
    left.Perm (if r.length = size then rest else ⟨r.start + size, r.stop⟩ :: rest)
  := by
  induction free generalizing left with
  | nil => cases fit
  | cons head rest ih =>
      rw [firstFit?] at fit
      split at fit
      · next enough =>
          cases fit
          use head, rest
      · next short =>
          obtain ⟨⟨taken', left'⟩, fit', eq⟩ := Option.map_eq_some_iff.mp fit
          cases eq
          obtain ⟨r, rest', perm, enough, eq, perm'⟩ := ih fit'
          use r, head :: rest'
          constructor
          · apply (perm.cons head).trans
            apply List.Perm.swap
          use enough, eq
          apply (perm'.cons head).trans
          split
          · apply List.Perm.refl
          · apply List.Perm.swap

/-- Taking bytes moves them from the free regions to the others. -/
theorem Tiling.firstFit (h : Tiling limit total (live ++ free)) (pos : 0 < size)
    (fit : firstFit? size free = some (taken, left)) :
  Tiling limit total (taken :: (live ++ left))
  := by
  obtain ⟨r, rest, perm, enough, rfl, perm'⟩ := exists_of_firstFit? fit
  have front (part : List Region) (head : Region) :
      (live ++ head :: part).Perm (head :: (live ++ part))
    := List.perm_middle
  have h' : Tiling limit total (r :: (live ++ rest))
    := h.perm ((perm.append_left live).trans (front rest r))
  have length := Region.length.eq_1 r
  apply Tiling.perm _ ((perm'.append_left live).cons _).symm
  split
  · next whole =>
      have stop : r.start + size = r.stop := by omega
      rw [stop]
      apply h'
  · next part =>
      apply Tiling.perm _ ((front rest ⟨r.start + size, r.stop⟩).cons _).symm
      apply h'.cut
      · omega
      · omega

end VirtualMemory
