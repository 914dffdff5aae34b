import VirtualMemory.Page.Entry
import Mathlib.Data.Nat.Bitwise
import Mathlib.Tactic.Use

/-!
# Encodings of entries

The fields of an entry lie below its flags, and those of a swapped page lie apart from each other,
so that an entry made for a frame or for a slot reads as what it was made for.  Setting the dirty
flag changes one bit and moves no page.  Of the `Encoded` entries, which are made in these ways,
each is made again from its state and its dirty flag, so these two tell them apart.  What is asked
of an entry otherwise is answered by its state, whatever the word.
-/

namespace VirtualMemory

namespace Flag

theorem bit_lt {f : Flag} :
  f.bit < 64
  := by
  cases f <;> decide

theorem le_bit {f : Flag} :
  60 ≤ f.bit
  := by
  cases f <;> decide

theorem getLsbD_mask {f : Flag} {i : Nat} :
  f.mask.getLsbD i = decide (i = f.bit)
  := by
  have h := f.bit_lt
  rw [mask, BitVec.getLsbD_shiftLeft, BitVec.getLsbD_one]
  by_cases hi : i = f.bit
  · subst hi
    simp [h]
  · simp [hi]
    omega

/-- No flag reaches into the fields below the flags. -/
theorem extractLsb'_mask {f : Flag} {start length : Nat} (h : start + length ≤ 60) :
  f.mask.extractLsb' start length = BitVec.ofNat length 0
  := by
  apply BitVec.eq_of_getLsbD_eq
  intro i hi
  have below : ¬ (start + i = f.bit) := by
    have := f.le_bit
    omega
  simp only [BitVec.getLsbD_extractLsb', getLsbD_mask, below, decide_false, Bool.and_false,
    BitVec.getLsbD_zero]

end Flag

namespace Entry

variable {e e' : Entry} {f : Flag} {frame device slot : Nat}

/-! ### Layout -/

/-- The number below the flags in the entry of a swapped page.  The device has its low bits and the
slot the others. -/
def swapNumber (device slot : Nat) : Nat :=
  slot % 2 ^ slotBits * 2 ^ deviceBits + device % 2 ^ deviceBits

theorem swapNumber_lt :
  swapNumber device slot < 2 ^ 60
  := by
  have device_lt : device % 2 ^ deviceBits < 2 ^ deviceBits := Nat.mod_lt _ (by decide)
  have slot_lt : slot % 2 ^ slotBits < 2 ^ slotBits := Nat.mod_lt _ (by decide)
  simp only [swapNumber, slotBits, deviceBits] at *
  omega

/-- The device is a word, and shifting the slot past it drops no bit. -/
theorem bits_ofSwap :
  (ofSwap device slot).bits
    = Flag.present.mask ||| Flag.swapped.mask ||| BitVec.ofNat 64 (swapNumber device slot)
  := by
  have device_lt : device % 2 ^ deviceBits < 2 ^ deviceBits := Nat.mod_lt _ (by decide)
  have slot_lt : slot % 2 ^ slotBits < 2 ^ slotBits := Nat.mod_lt _ (by decide)
  have low : (BitVec.ofNat 64 (device % 2 ^ deviceBits)).toNat = device % 2 ^ deviceBits := by
    rw [BitVec.toNat_ofNat, Nat.mod_eq_of_lt (lt_of_lt_of_le device_lt (by decide))]
  have high : (BitVec.ofNat 64 (slot % 2 ^ slotBits) <<< deviceBits).toNat
      = (slot % 2 ^ slotBits) <<< deviceBits
    := by
    rw [BitVec.toNat_shiftLeft, BitVec.toNat_ofNat, Nat.shiftLeft_eq, Nat.shiftLeft_eq]
    simp only [slotBits, deviceBits] at slot_lt ⊢
    omega
  have number : BitVec.ofNat 64 (device % 2 ^ deviceBits) |||
      BitVec.ofNat 64 (slot % 2 ^ slotBits) <<< deviceBits
      = BitVec.ofNat 64 (swapNumber device slot)
    := by
    have word : swapNumber device slot < 2 ^ 64 := lt_of_lt_of_le swapNumber_lt (by decide)
    apply BitVec.eq_of_toNat_eq
    rw [BitVec.toNat_or, low, high, Nat.or_comm, ← Nat.shiftLeft_add_eq_or_of_lt device_lt,
      Nat.shiftLeft_eq, BitVec.toNat_ofNat, Nat.mod_eq_of_lt word, swapNumber]
  rw [ofSwap, BitVec.or_assoc, number]

/-- Numbers below the flags have no flag. -/
theorem testBit_flag {n : Nat} (h : n < 2 ^ 60) :
  n.testBit f.bit = false
  := by
  apply Nat.testBit_lt_two_pow
  apply lt_of_lt_of_le h
  apply Nat.pow_le_pow_right (by decide) f.le_bit

/-- A field of a number below the flags. -/
theorem toNat_field {n start length : Nat} (h : n < 2 ^ 60) :
  ((BitVec.ofNat 64 n).extractLsb' start length).toNat = n / 2 ^ start % 2 ^ length
  := by
  have word : n < 2 ^ 64 := lt_of_lt_of_le h (by decide)
  rw [BitVec.extractLsb'_toNat, BitVec.toNat_ofNat, Nat.mod_eq_of_lt word,
    Nat.shiftRight_eq_div_pow]

theorem has_resident (h : frame < 2 ^ frameBits) :
  (⟨Flag.present.mask ||| BitVec.ofNat 64 frame⟩ : Entry).has f = decide (f = .present)
  := by
  have small : frame < 2 ^ 60 := lt_of_lt_of_le h (by decide)
  rw [has, BitVec.getLsbD_or, Flag.getLsbD_mask, BitVec.getLsbD_ofNat, testBit_flag small]
  cases f <;> rfl

theorem frame_resident (h : frame < 2 ^ frameBits) :
  ((Flag.present.mask ||| BitVec.ofNat 64 frame).extractLsb' 0 frameBits).toNat = frame
  := by
  have small : frame < 2 ^ 60 := lt_of_lt_of_le h (by decide)
  rw [BitVec.extractLsb'_or, Flag.extractLsb'_mask (by decide), BitVec.zero_or,
    toNat_field small, Nat.pow_zero, Nat.div_one, Nat.mod_eq_of_lt h]

theorem has_ofSwap :
  (ofSwap device slot).has f = decide (f = .present ∨ f = .swapped)
  := by
  rw [has, bits_ofSwap, BitVec.getLsbD_or, BitVec.getLsbD_or, Flag.getLsbD_mask,
    Flag.getLsbD_mask, BitVec.getLsbD_ofNat, testBit_flag swapNumber_lt]
  cases f <;> rfl

theorem field_ofSwap {start length : Nat} (h : start + length ≤ 60) :
  ((ofSwap device slot).bits.extractLsb' start length).toNat
    = swapNumber device slot / 2 ^ start % 2 ^ length
  := by
  rw [bits_ofSwap, BitVec.extractLsb'_or, BitVec.extractLsb'_or, Flag.extractLsb'_mask h,
    Flag.extractLsb'_mask h, BitVec.zero_or, BitVec.zero_or, toNat_field swapNumber_lt]

theorem device_ofSwap :
  ((ofSwap device slot).bits.extractLsb' 0 deviceBits).toNat = device % 2 ^ deviceBits
  := by
  rw [field_ofSwap (by decide), swapNumber, Nat.pow_zero, Nat.div_one,
    Nat.mul_add_mod_self_right, Nat.mod_mod]

theorem slot_ofSwap :
  ((ofSwap device slot).bits.extractLsb' deviceBits slotBits).toNat = slot % 2 ^ slotBits
  := by
  rw [field_ofSwap (by decide), swapNumber, Nat.mul_comm, Nat.mul_add_div (by decide),
    Nat.div_eq_of_lt (Nat.mod_lt _ (by decide)), Nat.add_zero, Nat.mod_mod]

theorem isSwapped_ofSwap :
  (ofSwap device slot).isSwapped = true
  := by
  rw [isSwapped, has_ofSwap, has_ofSwap]
  rfl

@[simp]
theorem isDirty_ofSwap :
  (ofSwap device slot).isDirty = false
  := by
  rw [isDirty, has_ofSwap]
  rfl

/-! ### States -/

/-- Frames are numbers from one on that fit. -/
theorem resident?_eq_none_iff :
  resident? frame = none ↔ frame = 0 ∨ 2 ^ frameBits ≤ frame
  := by
  rw [resident?]
  split
  · next h => simp [h]
  · next h => simp [h]

theorem resident?_eq_some_iff :
  resident? frame = some e ↔
    (frame ≠ 0 ∧ frame < 2 ^ frameBits) ∧ e = ⟨Flag.present.mask ||| BitVec.ofNat 64 frame⟩
  := by
  rw [resident?]
  split
  · next h =>
      have unfit : ¬ (frame ≠ 0 ∧ frame < 2 ^ frameBits) := by omega
      simp [unfit]
  · next h =>
      have fits : frame ≠ 0 ∧ frame < 2 ^ frameBits := by omega
      simp [fits, eq_comm]

/-- An entry made for a frame starts without the dirty flag. -/
theorem isDirty_resident? (h : resident? frame = some e) :
  e.isDirty = false
  := by
  obtain ⟨⟨-, small⟩, rfl⟩ := resident?_eq_some_iff.mp h
  rw [isDirty, has_resident small]
  rfl

/-- An entry made for a frame reads as that frame, not written to. -/
theorem state_resident? (h : resident? frame = some e) :
  e.state = .resident frame false
  := by
  have clean := isDirty_resident? h
  obtain ⟨⟨-, small⟩, rfl⟩ := resident?_eq_some_iff.mp h
  rw [state, isSwapped, isPresent, has_resident small, has_resident small, frame_resident small,
    clean]
  rfl

/-- An entry made for a slot reads as that slot; of numbers that do not fit the low bits are
left. -/
theorem state_ofSwap :
  (ofSwap device slot).state = .swapped (device % 2 ^ deviceBits) (slot % 2 ^ slotBits)
  := by
  rw [state, if_pos isSwapped_ofSwap, device_ofSwap, slot_ofSwap]

/-! ### The dirty flag -/

theorem has_withDirty :
  e.withDirty.has f = (e.has f || decide (f = .dirty))
  := by
  rw [has, withDirty, BitVec.getLsbD_or, Flag.getLsbD_mask, has]
  cases f <;> rfl

/-- The fields below the flags do not see the dirty flag. -/
theorem extractLsb'_withDirty {start length : Nat} (h : start + length ≤ 60) :
  e.withDirty.bits.extractLsb' start length = e.bits.extractLsb' start length
  := by
  rw [withDirty, BitVec.extractLsb'_or, Flag.extractLsb'_mask h, BitVec.or_zero]

@[simp]
theorem isSwapped_withDirty :
  e.withDirty.isSwapped = e.isSwapped
  := by
  simp [isSwapped, has_withDirty]

@[simp]
theorem isPresent_withDirty :
  e.withDirty.isPresent = e.isPresent
  := by
  simp [isPresent, has_withDirty]

@[simp]
theorem isResident_withDirty :
  e.withDirty.isResident = e.isResident
  := by
  simp [isResident]

@[simp]
theorem isDirty_withDirty :
  e.withDirty.isDirty = true
  := by
  simp [isDirty, has_withDirty]

theorem withDirty_withDirty :
  e.withDirty.withDirty = e.withDirty
  := by
  rw [withDirty, withDirty, BitVec.or_assoc, BitVec.or_self]

/-- The state of a page after a byte of it is written. -/
def State.written : State → State
  | .unmapped => .unmapped
  | .resident frame _ => .resident frame true
  | .swapped device slot => .swapped device slot

/-- The dirty flag makes a resident page dirty, and does nothing else: all that a state can read
lies below the flag. -/
theorem state_withDirty :
  e.withDirty.state = e.state.written
  := by
  rw [state, state, isSwapped_withDirty, isPresent_withDirty, isDirty_withDirty,
    extractLsb'_withDirty (by decide), extractLsb'_withDirty (by decide),
    extractLsb'_withDirty (by decide)]
  split
  · rfl
  · split
    · rfl
    · rfl

/-! ### Answers -/

/-- What is asked of an entry has the answers that a state gives. -/
def AnswersAs (e : Entry) : State → Prop
  | .unmapped =>
    e.isPresent = false ∧ e.isResident = false ∧ e.isSwapped = false ∧
      e.frame? = none ∧ e.device? = none ∧ e.slot? = none
  | .resident frame dirty =>
    e.isPresent = true ∧ e.isResident = true ∧ e.isSwapped = false ∧
      e.frame? = some frame ∧ e.device? = none ∧ e.slot? = none ∧ e.isDirty = dirty
  | .swapped device slot =>
    e.isPresent = true ∧ e.isResident = false ∧ e.isSwapped = true ∧
      e.frame? = none ∧ e.device? = some device ∧ e.slot? = some slot

theorem isPresent_of_isSwapped (swapped : e.isSwapped = true) :
  e.isPresent = true
  := by
  rw [isSwapped, Bool.and_eq_true] at swapped
  apply swapped.1

theorem isResident_eq_false_of_swapped (swapped : e.isSwapped = true) :
  e.isResident = false
  := by
  rw [isResident, swapped, Bool.not_true, Bool.and_false]

theorem isResident_eq_false_of_absent (absent : e.isPresent = false) :
  e.isResident = false
  := by
  rw [isResident, absent, Bool.false_and]

/-- Every word answers as its state. -/
theorem answersAs_state :
  e.AnswersAs e.state
  := by
  rw [state]
  split
  · next swapped =>
      have present := isPresent_of_isSwapped swapped
      have away := isResident_eq_false_of_swapped swapped
      simp only [AnswersAs, frame?, device?, slot?, swapped, present, away, Bool.false_eq_true,
        if_true, if_false, and_self]
  · next kept =>
      rw [Bool.not_eq_true] at kept
      split
      · next present =>
          have resident : e.isResident = true := by
            rw [isResident, present, kept, Bool.not_false, Bool.and_true]
          simp only [AnswersAs, frame?, device?, slot?, kept, present, resident,
            Bool.false_eq_true, if_true, if_false, and_self]
      · next absent =>
          rw [Bool.not_eq_true] at absent
          have away := isResident_eq_false_of_absent absent
          simp only [AnswersAs, frame?, device?, slot?, kept, absent, away, Bool.false_eq_true,
            if_false, and_self]

/-- A word is that of an unmapped page, of a resident one or of a swapped one, and of one of these
only. -/
theorem count_states :
  [decide (e.state = .unmapped), e.isResident, e.isSwapped].count true = 1
  := by
  have answers := e.answersAs_state
  cases state : e.state
  all_goals
    rw [state] at answers
    obtain ⟨-, resident, swapped, -⟩ := answers
    rw [resident, swapped]
    rfl

/-! ### Encoded entries -/

/-- An entry that is made from the empty one, for frames, for slots and by setting the dirty
flag. -/
inductive Encoded : Entry → Prop
  | empty : Encoded .empty
  | resident {frame : Nat} {e : Entry} (fit : resident? frame = some e) : Encoded e
  | swapped (device slot : Nat) : Encoded (ofSwap device slot)
  | written {e : Entry} (encoded : Encoded e) : Encoded e.withDirty

/-- The entry of a page in a state, without the dirty flag. -/
def State.clean : State → Entry
  | .unmapped => .empty
  | .resident frame _ => (resident? frame).getD .empty
  | .swapped device slot => ofSwap device slot

theorem clean_written {s : State} :
  s.written.clean = s.clean
  := by
  cases s <;> rfl

/-- An encoded entry is made again from its state and its dirty flag, which is there already if the
entry is written for the second time. -/
theorem Encoded.eq_clean (encoded : Encoded e) :
  e = if e.isDirty then e.state.clean.withDirty else e.state.clean
  := by
  induction encoded with
  | empty => rfl
  | resident fit =>
      rw [isDirty_resident? fit, state_resident? fit, State.clean, fit]
      rfl
  | swapped device slot =>
      rw [isDirty_ofSwap, state_ofSwap, State.clean, ofSwap, ofSwap, Nat.mod_mod, Nat.mod_mod]
      rfl
  | @written e encoded ih =>
      rw [isDirty_withDirty, if_pos rfl, state_withDirty, clean_written]
      split at ih
      · calc e.withDirty
          _ = e.state.clean.withDirty.withDirty := congrArg withDirty ih
          _ = e.state.clean.withDirty := withDirty_withDirty
      · apply congrArg withDirty ih

/-- Two encoded entries are one word exactly if they have the same state and the same dirty
flag. -/
theorem Encoded.bits_eq_iff (encoded : Encoded e) (encoded' : Encoded e') :
  e.bits = e'.bits ↔ e.state = e'.state ∧ e.isDirty = e'.isDirty
  := by
  constructor
  · intro same
    obtain rfl : e = e' := by
      cases e
      cases e'
      apply congrArg mk same
    constructor
    · rfl
    · rfl
  · rintro ⟨state, dirty⟩
    rw [encoded.eq_clean, encoded'.eq_clean, state, dirty]

/-- Exactly the frames that are not zero and have at most 48 bits have an entry, which reads as the
frame, clean; an entry for a slot of 46 bits of one of 32 devices reads as that slot, clean.
Setting the dirty flag again does nothing; it makes a resident page dirty, and changes no other
state and no other bit.  Encoded entries are told apart by state and dirty flag.  Every word is in
one of three states, which answers what is asked of it. -/
theorem encoding_faithful :
  (∀ frame, (resident? frame = none ↔ frame = 0 ∨ 2 ^ 48 ≤ frame) ∧
    ∀ e, resident? frame = some e → e.state = .resident frame false) ∧
  (∀ device slot, device < 32 → slot < 2 ^ 46 →
    (ofSwap device slot).state = .swapped device slot ∧ (ofSwap device slot).isDirty = false) ∧
  (∀ e : Entry, e.withDirty.withDirty = e.withDirty ∧ e.withDirty.state = e.state.written ∧
    e.withDirty.isDirty = true ∧
    ∀ i ≠ 60, e.withDirty.bits.getLsbD i = e.bits.getLsbD i) ∧
  (∀ e e', Encoded e → Encoded e' →
    (e.bits = e'.bits ↔ e.state = e'.state ∧ e.isDirty = e'.isDirty)) ∧
  ∀ e : Entry, e.AnswersAs e.state ∧
    [decide (e.state = .unmapped), e.isResident, e.isSwapped].count true = 1
  := by
  constructor
  · intro frame
    exact ⟨resident?_eq_none_iff, fun e fit => state_resident? fit⟩
  constructor
  · intro device slot device_lt slot_lt
    constructor
    · rw [state_ofSwap]
      congr 1
      · apply Nat.mod_eq_of_lt device_lt
      · apply Nat.mod_eq_of_lt slot_lt
    · apply isDirty_ofSwap
  constructor
  · intro e
    use withDirty_withDirty, state_withDirty, isDirty_withDirty
    intro i other
    rw [withDirty, BitVec.getLsbD_or, Flag.getLsbD_mask, Flag.bit, decide_eq_false other,
      Bool.or_false]
  constructor
  · intro e e' encoded encoded'
    apply encoded.bits_eq_iff encoded'
  · intro e
    use answersAs_state
    apply count_states

/-- The greatest frame and the greatest slot of the last device read back.  The dirty flag does not
show in the state of the latter, but in its bits. -/
theorem encoding_faithful_greatest :
  (∃ e, resident? (2 ^ 48 - 1) = some e ∧ e.state = .resident (2 ^ 48 - 1) false ∧
    e.withDirty.state = .resident (2 ^ 48 - 1) true) ∧
  (ofSwap 31 (2 ^ 46 - 1)).state = .swapped 31 (2 ^ 46 - 1) ∧
  (ofSwap 31 (2 ^ 46 - 1)).withDirty.state = .swapped 31 (2 ^ 46 - 1) ∧
  Encoded (ofSwap 31 (2 ^ 46 - 1)) ∧ Encoded (ofSwap 31 (2 ^ 46 - 1)).withDirty ∧
  (ofSwap 31 (2 ^ 46 - 1)).bits ≠ (ofSwap 31 (2 ^ 46 - 1)).withDirty.bits
  := by
  obtain ⟨frames, slots, writing, bits, -⟩ := encoding_faithful
  have encoded : Encoded (ofSwap 31 (2 ^ 46 - 1)) := .swapped 31 (2 ^ 46 - 1)
  obtain ⟨state, clean⟩ := slots 31 (2 ^ 46 - 1) (by decide) (by decide)
  constructor
  · obtain ⟨none_iff, reads⟩ := frames (2 ^ 48 - 1)
    cases fit : resident? (2 ^ 48 - 1) with
    | none => exact absurd (none_iff.mp fit) (by decide)
    | some e =>
        have resident := reads e fit
        use e, rfl, resident
        rw [(writing e).2.1, resident, State.written]
  use state
  constructor
  · rw [(writing _).2.1, state, State.written]
  use encoded, encoded.written
  intro same
  obtain ⟨-, dirty⟩ := (bits _ _ encoded encoded.written).mp same
  rw [clean, (writing _).2.2.1] at dirty
  cases dirty

end Entry

end VirtualMemory
