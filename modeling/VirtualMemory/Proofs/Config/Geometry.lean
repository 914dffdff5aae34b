import VirtualMemory.Config.Basic
import Mathlib.Data.Nat.Log
import Mathlib.Order.Bounds.Basic
import Mathlib.Tactic.Use

/-!
# Pages and offsets of addresses

The page size of a valid configuration is a power of two.  The page of an address and its offset
in the page determine the address; if the page size is a word they are the quotient and the
remainder by it.  Rounding up gives whole pages, and not less than what is rounded as long as
one more page fits below the bound on words; it gives the least such number exactly if the sum
before rounding is not cut at the greatest word.
-/

namespace VirtualMemory.Config

variable {c : Config} {a b n : Nat}

/-- What is required of a valid configuration. -/
theorem meets_of_validate (h : c.validate = .ok ()) (r : Constraint) :
  c.Meets r
  := validate_eq_ok_iff.mp h r

/-- The page size of a valid configuration is a power of two, and not one. -/
theorem exists_pageSize_eq (h : c.validate = .ok ()) :
  ∃ k, 1 ≤ k ∧ c.pageSize = 2 ^ k
  := by
  obtain ⟨two_le, power⟩ := meets_of_validate h .pageSize
  use c.pageSize.log2
  constructor
  · rw [Nat.le_log2 (by omega)]
    omega
  · apply power.symm

theorem pageSize_pos (h : c.validate = .ok ()) :
  0 < c.pageSize
  := by
  obtain ⟨k, -, hk⟩ := exists_pageSize_eq h
  rw [hk]
  apply Nat.two_pow_pos

theorem maxPages_pos (h : c.validate = .ok ()) :
  0 < c.maxPages
  := (meets_of_validate h .maxPages).1

/-- A page is no longer than all pages together. -/
theorem pageSize_le_half (h : c.validate = .ok ()) (bounded : c.maxPages * c.pageSize ≤ 2 ^ 63) :
  c.pageSize ≤ 2 ^ 63
  := le_trans (Nat.le_mul_of_pos_left c.pageSize (maxPages_pos h)) bounded

theorem pageSize_lt_bound (h : c.validate = .ok ()) (bounded : c.maxPages * c.pageSize ≤ 2 ^ 63) :
  c.pageSize < Word.bound
  := lt_of_le_of_lt (pageSize_le_half h bounded) (by decide)

/-- The offset bits are the exponent of the page size, if that is at most the width of words. -/
theorem offsetBits_eq {k : Nat} (hk : c.pageSize = 2 ^ k) :
  c.offsetBits = min k 64
  := by
  have gcd : Nat.gcd (2 ^ k) (2 ^ 64) = 2 ^ min k 64 := by
    rcases Nat.le_total k 64 with le | le
    · rw [Nat.min_eq_left le, Nat.gcd_eq_left (Nat.pow_dvd_pow 2 le)]
    · rw [Nat.min_eq_right le, Nat.gcd_eq_right (Nat.pow_dvd_pow 2 le)]
  rw [offsetBits, hk, gcd, Nat.log2_two_pow]

theorem offsetOf_eq (h : c.validate = .ok ()) :
  c.offsetOf a = a % c.pageSize
  := by
  obtain ⟨k, -, hk⟩ := exists_pageSize_eq h
  rw [offsetOf, Word.before_of_pos (pageSize_pos h), hk, Nat.and_two_pow_sub_one_eq_mod]

theorem offsetOf_lt (h : c.validate = .ok ()) :
  c.offsetOf a < c.pageSize
  := by
  rw [offsetOf_eq h]
  apply Nat.mod_lt _ (pageSize_pos h)

/-- An offset in one of the first pages is before their end. -/
theorem mul_add_offsetOf_lt (h : c.validate = .ok ()) (below : b < n) :
  b * c.pageSize + c.offsetOf a < n * c.pageSize
  := by
  have offset := offsetOf_lt (a := a) h
  have le := Nat.mul_le_mul_right c.pageSize below
  rw [Nat.succ_mul] at le
  omega

/-- The page of an address is what is left of it without bits of the offset. -/
theorem exists_pageOf_eq_div {k : Nat} (hk : c.pageSize = 2 ^ k) :
  ∃ j ≤ k, ∀ a, c.pageOf a = a / 2 ^ j
  := by
  use min k 64 % 64, Nat.le_trans (Nat.mod_le _ _) (Nat.min_le_left k 64)
  intro a
  rw [pageOf, offsetBits_eq hk, Word.shiftRight_eq_div]

/-- An address is determined by its page and its offset. -/
theorem eq_of_pageOf_eq (h : c.validate = .ok ())
    (page : c.pageOf a = c.pageOf b) (offset : c.offsetOf a = c.offsetOf b) :
  a = b
  := by
  obtain ⟨k, -, hk⟩ := exists_pageSize_eq h
  obtain ⟨j, le, pages⟩ := exists_pageOf_eq_div hk
  rw [offsetOf_eq h, offsetOf_eq h, hk] at offset
  rw [pages, pages] at page
  have low : a % 2 ^ j = b % 2 ^ j := by
    have dvd : 2 ^ j ∣ 2 ^ k := Nat.pow_dvd_pow 2 le
    rw [← Nat.mod_mod_of_dvd a dvd, ← Nat.mod_mod_of_dvd b dvd, offset]
  rw [← Nat.div_add_mod a (2 ^ j), ← Nat.div_add_mod b (2 ^ j), page, low]

/-! ### Page sizes within a word -/

theorem pageOf_eq (h : c.validate = .ok ()) (word : c.pageSize < Word.bound) :
  c.pageOf a = a / c.pageSize
  := by
  obtain ⟨k, -, hk⟩ := exists_pageSize_eq h
  have lt : k < 64 := by
    rw [hk, Word.bound] at word
    apply (Nat.pow_lt_pow_iff_right (by decide)).mp word
  rw [pageOf, offsetBits_eq hk, Nat.min_eq_left (Nat.le_of_lt lt), Word.shiftRight_eq_div,
    Nat.mod_eq_of_lt lt, hk]

theorem pageOf_mul_add_offsetOf (h : c.validate = .ok ()) (word : c.pageSize < Word.bound) :
  c.pageOf a * c.pageSize + c.offsetOf a = a
  := by
  rw [pageOf_eq h word, offsetOf_eq h, Nat.mul_comm]
  apply Nat.div_add_mod

/-- A page is below a limit exactly if the address is below the end of the last page. -/
theorem pageOf_lt_iff (h : c.validate = .ok ()) (word : c.pageSize < Word.bound) :
  c.pageOf a < n ↔ a < n * c.pageSize
  := by
  rw [pageOf_eq h word, Nat.div_lt_iff_lt_mul (pageSize_pos h)]

/-- Every page from that of the first address to that of the last one of a range holds an address
of the range: its first one, or the first of the range. -/
theorem exists_pageOf_eq (h : c.validate = .ok ()) (word : c.pageSize < Word.bound) (lt : a < b)
    (ge : c.pageOf a ≤ n) (le : n ≤ c.pageOf (b - 1)) :
  ∃ address, a ≤ address ∧ address < b ∧ c.pageOf address = n
  := by
  have pos := pageSize_pos h
  rcases Nat.lt_or_ge a (n * c.pageSize) with before | behind
  · use n * c.pageSize, Nat.le_of_lt before
    constructor
    · rw [pageOf_eq h word, Nat.le_div_iff_mul_le pos] at le
      omega
    · rw [pageOf_eq h word, Nat.mul_div_cancel n pos]
  · use a, Nat.le_refl a, lt
    apply Nat.le_antisymm ge
    rw [pageOf_eq h word, Nat.le_div_iff_mul_le pos]
    apply behind

/-! ### Rounding up -/

/-- Rounding up is rounding down after a page less one byte is added, with a cut at the greatest
word. -/
theorem alignUp_eq_of_two_pow {k : Nat} (hk : c.pageSize = 2 ^ k) :
  c.alignUp n = max (min (n + (c.pageSize - 1)) Word.greatest / c.pageSize * c.pageSize) c.pageSize
  := by
  have mask : Word.before (2 ^ k) = 2 ^ k - 1 := Word.before_of_pos (Nat.two_pow_pos k)
  simp only [alignUp, Word.saturatingAdd, mask, hk, Nat.and_two_pow_sub_one_eq_mod]
  congr 1
  have := Nat.div_add_mod (min (n + (2 ^ k - 1)) Word.greatest) (2 ^ k)
  rw [Nat.mul_comm]
  omega

theorem alignUp_eq (h : c.validate = .ok ()) :
  c.alignUp n = max (min (n + (c.pageSize - 1)) Word.greatest / c.pageSize * c.pageSize) c.pageSize
  := by
  obtain ⟨k, -, hk⟩ := exists_pageSize_eq h
  apply alignUp_eq_of_two_pow hk

theorem pageSize_le_alignUp :
  c.pageSize ≤ c.alignUp n
  := Nat.le_max_right _ _

/-- Rounding up does not lose bytes if there is room for one more page below the bound on
words. -/
theorem le_alignUp (h : c.validate = .ok ()) (room : c.alignUp n + c.pageSize < Word.bound) :
  n ≤ c.alignUp n
  := by
  have pos := pageSize_pos h
  rw [alignUp_eq h] at room ⊢
  have split := Nat.div_add_mod (min (n + (c.pageSize - 1)) Word.greatest) c.pageSize
  have rest := Nat.mod_lt (min (n + (c.pageSize - 1)) Word.greatest) pos
  rw [Nat.mul_comm] at split
  rw [Word.bound] at room
  rw [Word.greatest] at room split rest ⊢
  generalize min (n + (c.pageSize - 1)) (2 ^ 64 - 1) / c.pageSize * c.pageSize = whole at *
  omega

/-- If the sum before rounding is not cut, rounding up counts the pages begun. -/
theorem alignUp_of_uncut {k : Nat} (hk : c.pageSize = 2 ^ k) (some : 1 ≤ n)
    (uncut : n + c.pageSize ≤ Word.bound) :
  c.alignUp n = (n + (c.pageSize - 1)) / c.pageSize * c.pageSize
  := by
  have pos : 0 < c.pageSize := hk ▸ Nat.two_pow_pos k
  have sum : min (n + (c.pageSize - 1)) Word.greatest = n + (c.pageSize - 1) := by
    rw [Word.bound] at uncut
    rw [Word.greatest]
    omega
  have page : 1 ≤ (n + (c.pageSize - 1)) / c.pageSize := by
    rw [Nat.le_div_iff_mul_le pos]
    omega
  rw [alignUp_eq_of_two_pow hk, sum, Nat.max_eq_left]
  apply Nat.le_mul_of_pos_left _ page

/-- If the sum before rounding is not cut, rounding up gives the least number of bytes that are
whole pages and not less. -/
theorem isLeast_alignUp {k : Nat} (hk : c.pageSize = 2 ^ k) (some : 1 ≤ n)
    (uncut : n + c.pageSize ≤ Word.bound) :
  IsLeast {whole | c.pageSize ∣ whole ∧ n ≤ whole} (c.alignUp n)
  := by
  have pos : 0 < c.pageSize := hk ▸ Nat.two_pow_pos k
  rw [alignUp_of_uncut hk some uncut]
  constructor
  · constructor
    · apply Nat.dvd_mul_left
    · have split := Nat.div_add_mod (n + (c.pageSize - 1)) c.pageSize
      have rest := Nat.mod_lt (n + (c.pageSize - 1)) pos
      rw [Nat.mul_comm] at split
      omega
  · rintro whole ⟨⟨pages, rfl⟩, le⟩
    rw [Nat.mul_comm c.pageSize]
    apply Nat.mul_le_mul_right
    apply Nat.le_of_lt_succ
    rw [Nat.div_lt_iff_lt_mul pos, Nat.succ_mul, Nat.mul_comm]
    omega

/-- If the sum before rounding is cut, rounding up gives the last whole page below the bound on
words, which is less than what is rounded. -/
theorem alignUp_of_cut {k : Nat} (hk : c.pageSize = 2 ^ k) (word : c.pageSize < Word.bound)
    (cut : Word.bound < n + c.pageSize) :
  c.alignUp n = Word.bound - c.pageSize
  := by
  have lt : k < 64 := by
    rw [hk, Word.bound] at word
    apply (Nat.pow_lt_pow_iff_right (by decide)).mp word
  have pages : Word.bound = 2 ^ (63 - k) * 2 * c.pageSize := by
    rw [hk, Word.bound, ← Nat.pow_succ, ← Nat.pow_add]
    congr 1
    omega
  have pos : 0 < c.pageSize := hk ▸ Nat.two_pow_pos k
  have some := Nat.two_pow_pos (63 - k)
  have sum : min (n + (c.pageSize - 1)) Word.greatest =
      (c.pageSize - 1) + (2 ^ (63 - k) * 2 - 1) * c.pageSize := by
    rw [Nat.sub_mul, ← pages]
    rw [Word.greatest]
    rw [Word.bound] at *
    omega
  have last : (c.pageSize - 1) / c.pageSize = 0 := Nat.div_eq_of_lt (by omega)
  rw [alignUp_eq_of_two_pow hk, sum, Nat.add_mul_div_right _ _ pos, last, Nat.zero_add,
    Nat.max_eq_left, Nat.sub_mul, ← pages, Nat.one_mul]
  apply Nat.le_mul_of_pos_left
  omega

/-- If the sum before rounding is cut, no word is whole pages and not less than what is
rounded. -/
theorem bound_le_of_cut {k whole : Nat} (hk : c.pageSize = 2 ^ k) (word : c.pageSize < Word.bound)
    (cut : Word.bound < n + c.pageSize) (pages : c.pageSize ∣ whole) (le : n ≤ whole) :
  Word.bound ≤ whole
  := by
  have dvd : c.pageSize ∣ Word.bound := by
    rw [hk, Word.bound] at word ⊢
    apply Nat.pow_dvd_pow
    apply Nat.le_of_lt ((Nat.pow_lt_pow_iff_right (by decide)).mp word)
  obtain ⟨m, rfl⟩ := pages
  obtain ⟨b, eq⟩ := dvd
  rw [eq] at cut ⊢
  apply Nat.mul_le_mul_left
  apply Nat.le_of_lt_succ
  apply Nat.lt_of_mul_lt_mul_left (a := c.pageSize)
  rw [Nat.mul_succ]
  omega

end VirtualMemory.Config
