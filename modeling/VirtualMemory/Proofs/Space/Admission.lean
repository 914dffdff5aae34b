import VirtualMemory.Proofs.Paging.Supply
import VirtualMemory.Proofs.Space.Exchange

/-!
# What a space admits on reliable stores

A space that has reliable memories for itself maps a range of pages exactly if the free frames,
the free slots and the resident pages are enough for the pages of the range that are not mapped,
and it fails with one of two reasons otherwise.  The fault of a single page fails for three
reasons only, and then nothing has changed.  If nothing was lost, there is no page to evict
exactly if the main store has no frame but the first, which is never handed out.  A page that is
swapped can therefore be stuck: it cannot come back while all frames and slots are taken, though
its return would free a slot.
-/

namespace VirtualMemory

open Backing MemoryBacked

variable {c : Config} {ω : Type}

namespace Paging

variable {page first count : Nat} {out : Set Place}

section Memory

variable [MemoryBacked ω] {s s' : Paging c × ω}

/-- After a range mapping that succeeds the pages of the range are mapped, no page is lost or
changed, and frames were taken before slots. -/
structure Admitted (first count : Nat) (s s' : Paging c × ω) : Prop where
  present : ∀ page, first ≤ page → page < first + count → (s'.1.entry page).isPresent = true
  kept : ∀ page, (s.1.entry page).isPresent = true → (s'.1.entry page).isPresent = true
  content : ∀ page, ∀ offset < c.pageSize,
    content s'.1.places c.pageSize (memory s'.2) page offset =
      content s.1.places c.pageSize (memory s.2) page offset
  frames : (memory s'.2 .ram).free.length =
    (memory s.2 .ram).free.length - s.1.absentCount first count
  slots : (memory s'.2 .swap).free.length =
    (memory s.2 .swap).free.length - (s.1.absentCount first count - (memory s.2 .ram).free.length)

/-- Why the fault of a page fails, if it does. -/
def refusal (page : Nat) (s : Paging c × ω) : Option Error :=
  if c.maxPages ≤ page then some (.pageOutOfRange page)
  else if (s.1.entry page).isResident ∨ (memory s.2 .ram).free ≠ [] then none
  else if (memory s.2 .swap).free = [] then some .mappingFailed
  else if (memory s.2 .ram).frameCount ≤ 1 then some .noVictim
  else none

/-- If nothing is lost and no frame is free, a page is resident exactly if there is a frame. -/
theorem Guarded.residents_pos_iff (g : Guarded ∅ s) (full : (memory s.2 .ram).free = [])
    (fits : c.maxPages ≤ pageLimit) :
  0 < s.1.residency.pages.length ↔ 1 < (memory s.2 .ram).frameCount
  := by
  rw [List.length_pos_iff_exists_mem]
  constructor
  · rintro ⟨page, mem⟩
    have hp : page < pageLimit := lt_of_lt_of_le (g.agreement.below page mem) fits
    obtain ⟨frame, place⟩ := Entry.isResident_iff.mp ((g.agreement.mem_iff page hp).mp mem)
    rw [← places_of_lt hp] at place
    obtain ⟨pos, lt⟩ := g.custody.isFrame (.page page) (.ram, frame) place
    exact lt_of_le_of_lt pos lt
  · intro some
    obtain ⟨holder, held⟩ := g.custody.exists_holder (.ram, 1) ⟨le_refl 1, some⟩
    cases holder with
    | pool =>
        rw [Holds, full] at held
        cases held
    | page page =>
        use page
        apply g.agreement.mem_of_place held
    | outside => cases held

/-- The reasons for which the supply is not enough for a page. -/
theorem Guarded.draw_eq_error_iff (g : Guarded ∅ s) (fits : c.maxPages ≤ pageLimit)
    (below : page < c.maxPages) (absent : (s.1.entry page).isResident = false) {e : Error} :
  (supply s).draw = .error e ↔ refusal page s = some e
  := by
  rw [refusal, if_neg (Nat.not_le_of_lt below), absent, supply]
  rcases full : (memory s.2 .ram).free with - | ⟨frame, frames⟩
  · have idle := g.residents_pos_iff full fits
    rcases (memory s.2 .swap).free with - | ⟨slot, slots⟩
    · simp [Supply.draw]
    · rcases residents : s.1.residency.pages.length with - | n
      · have none : (memory s.2 .ram).frameCount ≤ 1 := by omega
        simp [Supply.draw, none]
      · have some : ¬ (memory s.2 .ram).frameCount ≤ 1 := by omega
        simp [Supply.draw, some]
  · simp [Supply.draw]

end Memory

variable [Reliable ω] {s s' : Paging c × ω}

/-- The fault of a page fails for the reasons stated, and then nothing has moved. -/
theorem Resolution.refused {stores : Stores} {answer : Except Error Nat}
    (h : Resolution stores page s answer s') (mode : c.mode = .paged)
    (fits : c.maxPages ≤ pageLimit) (all : ∀ device, stores.has device = true)
    (words : ∀ device, sizes s device < Word.bound) (g : Guarded ∅ s) {e : Error} :
  (answer = .error e ↔ refusal page s = some e) ∧ (answer = .error e → Unmoved s s')
  := by
  have still : Unmoved s s := ⟨rfl, fun _ => .refl _⟩
  rcases Nat.lt_or_ge page c.maxPages with below | above
  · rcases resident : (s.1.entry page).isResident with - | -
    · obtain ⟨settle, draws⟩ := h.exists_draws fits all words g mode below resident
      rw [← g.draw_eq_error_iff fits below resident]
      cases answer with
      | ok frame =>
          obtain ⟨x, draw, -⟩ := draws.exists_draw
          simp [draw]
      | error e' =>
          obtain ⟨draw, unmoved⟩ := draws.draw_eq
          simp [draw, unmoved]
    · obtain ⟨frame, place⟩ := Entry.isResident_iff.mp resident
      rw [refusal, if_neg (Nat.not_le_of_lt below), if_pos (.inl resident)]
      cases h with
      | beyond above => exact absurd below (Nat.not_lt_of_le above)
      | identity below mode' => simp
      | resident below mode' place' => simp
      | swapped below mode' place' fault => cases place.symm.trans place'
      | unmapped below mode' place' fault => cases place.symm.trans place'
  · rw [refusal, if_pos above]
    cases h with
    | beyond above => simp [still]
    | identity below mode' => exact absurd below (Nat.not_lt_of_le above)
    | resident below mode' place' => exact absurd below (Nat.not_lt_of_le above)
    | swapped below mode' place' fault => exact absurd below (Nat.not_lt_of_le above)
    | unmapped below mode' place' fault => exact absurd below (Nat.not_lt_of_le above)

/-- A range within the limit is mapped exactly if the supply is enough for the pages that are not
mapped. -/
theorem Progress.admission {stores : Stores} {answer : Except Error Unit}
    (h : Progress stores count first [] s answer s') (fits : c.maxPages ≤ pageLimit)
    (all : ∀ device, stores.has device = true) (words : ∀ device, sizes s device < Word.bound)
    (range : first + count ≤ c.maxPages) (g : Guarded out s) :
  (answer = if (supply s).Suffices (s.1.absentCount first count) then .ok ()
    else .error (supply s).shortage) ∧
  (answer = .ok () → Admitted first count s s')
  := by
  have draws := h.draws fits all words range g
  rw [Supply.drawAll_eq] at draws
  cases answer with
  | error e =>
      split at draws
      · cases draws
      · next short =>
          obtain rfl := Except.error.inj draws
          rw [if_neg short]
          constructor
          · rfl
          · nofun
  | ok u =>
      split at draws
      · next enough =>
          rw [if_pos enough]
          constructor
          · rfl
          · intro _
            have present (page : Nat) (hp : page < pageLimit) :=
              h.isPresent_iff_of_ok fits range g.agreement hp
            obtain ⟨g', kept⟩ := h.keeps fits range nofun nofun nofun g
            have left := (Except.ok.inj draws).symm
            constructor
            · intro page ge lt
              exact (present page (by omega)).mpr (.inr ⟨ge, lt⟩)
            · intro page before
              rw [← entry_mod] at before ⊢
              exact (present _ (Nat.mod_lt _ (by decide))).mpr (.inl before)
            · apply kept.content
            · apply congrArg Supply.frames left
            · apply congrArg Supply.slots left
      · cases draws

end Paging

namespace Space

variable [Reliable ω] {s : Space c × ω}

/-- In every state of a space that has reliable memories for itself, a range of pages is mapped
exactly if it ends within the limit and frames, slots and resident pages are enough for the pages
of the range that are not mapped. -/
theorem Course.range_admission {brings : Stores → Prop}
    (course : Course (.alone (·.Framed c.pageSize) brings) s) (suits : c.Suits c.pageSize)
    (first count : Nat) (some : count ≠ 0) :
  (c.maxPages < first + count →
    (Paging.mapRange {} first count (s.1.paging, s.2)).answer =
      .error (.pageOutOfRange (first + count - 1)) ∧
    (Paging.mapRange {} first count (s.1.paging, s.2)).state = (s.1.paging, s.2)) ∧
  (first + count ≤ c.maxPages →
    (Paging.mapRange {} first count (s.1.paging, s.2)).answer =
      if (Paging.supply (s.1.paging, s.2)).Suffices (s.1.paging.absentCount first count)
      then .ok () else .error (Paging.supply (s.1.paging, s.2)).shortage) ∧
  ((Paging.mapRange {} first count (s.1.paging, s.2)).answer = .ok () →
    Paging.Admitted first count (s.1.paging, s.2)
      (Paging.mapRange {} first count (s.1.paging, s.2)).state)
  := by
  obtain ⟨lost, -, g, words⟩ := course.exists_guarded Set.univ
    (fun m framed => ⟨_, Set.subset_univ _, framed.custody fun _ => rfl⟩)
    (fun _ _ _ _ => trivial) suits
  have ends : Paging.PagesMapping {} first count (s.1.paging, s.2) _ _ := Paging.mapRange_ends
  generalize (Paging.mapRange {} first count (s.1.paging, s.2)).answer = answer at ends ⊢
  generalize (Paging.mapRange {} first count (s.1.paging, s.2)).state = s' at ends ⊢
  cases ends with
  | nothing none => exact absurd none some
  | beyond some' above =>
      constructor
      · intro _
        constructor
        · rfl
        · rfl
      constructor
      · intro within
        omega
      · nofun
  | identity some' below mode => cases suits.paged.symm.trans mode
  | paged some' below mode progress =>
      have range : first + count ≤ c.maxPages := by omega
      obtain ⟨answer_eq, admitted⟩ := progress.admission suits.fits (fun _ => Stores.has_default)
        words range g
      constructor
      · intro beyond
        omega
      constructor
      · intro _
        apply answer_eq
      · apply admitted

theorem unused_cramped :
  crampedMemories.Unused 2
  := by decide

theorem suits_small :
  Config.small.Suits 2
  := by decide

theorem course_onePage {brings : Stores → Prop} {fresh : Memories → Prop} (brought : brings {})
    (first : fresh crampedMemories) :
  Course (.alone fresh brings) onePage
  := by
  have words : ∀ device, (memory crampedMemories device).size < Word.bound := by decide
  have course : Course (.alone fresh brings) (new Config.small, crampedMemories)
    := .new ⟨first, words⟩
  exact course.fault brought 0

/-- With the only frame in use and one slot, one more page is mapped: the page that is resident,
itself in the range, is swapped.  Two more are not. -/
theorem range_admission_onePage :
  Course (.alone (·.Framed 2) fun _ => True) onePage ∧ Config.small.Suits 2 ∧
  Paging.supply (onePage.1.paging, onePage.2) = ⟨0, 1, 1⟩ ∧
  (Paging.mapRange {} 0 2 (onePage.1.paging, onePage.2)).answer = .ok () ∧
  Paging.Admitted 0 2 (onePage.1.paging, onePage.2)
    (Paging.mapRange {} 0 2 (onePage.1.paging, onePage.2)).state ∧
  (Paging.mapRange {} 0 3 (onePage.1.paging, onePage.2)).answer = .error .mappingFailed ∧
  (Paging.mapRange {} 3 2 (onePage.1.paging, onePage.2)).answer = .error (.pageOutOfRange 4)
  := by
  have course : Course (.alone (·.Framed 2) fun _ => True) onePage
    := course_onePage trivial unused_cramped.framed
  have supply_eq : Paging.supply (onePage.1.paging, onePage.2) = ⟨0, 1, 1⟩ := by decide +kernel
  have absent_two : onePage.1.paging.absentCount 0 2 = 1 := by decide +kernel
  have absent_three : onePage.1.paging.absentCount 0 3 = 2 := by decide +kernel
  obtain ⟨-, enough, admitted⟩ := course.range_admission suits_small 0 2 (by decide)
  obtain ⟨-, short, -⟩ := course.range_admission suits_small 0 3 (by decide)
  obtain ⟨beyond, -, -⟩ := course.range_admission suits_small 3 2 (by decide)
  have ok := enough (by decide)
  have failed := short (by decide)
  rw [supply_eq, absent_two, if_pos (by decide)] at ok
  rw [supply_eq, absent_three, if_neg (by decide)] at failed
  use course, suits_small, supply_eq, ok, admitted ok, failed
  apply (beyond (by decide)).1

/-- If all frames are free at first and both stores are brought to every step, the fault of a page
fails exactly for the reasons stated, and a fault that fails moves nothing and changes no
contents. -/
theorem Course.fault_refusal (course : Course (.alone (·.Unused c.pageSize) (· = {})) s)
    (suits : c.Suits c.pageSize) (page : Nat) (e : Error) :
  ((Paging.resolve {} page (s.1.paging, s.2)).answer = .error e ↔
    Paging.refusal page (s.1.paging, s.2) = some e) ∧
  ((Paging.resolve {} page (s.1.paging, s.2)).answer = .error e →
    Paging.Unmoved (s.1.paging, s.2) (Paging.resolve {} page (s.1.paging, s.2)).state ∧
    ∀ other, ∀ offset < c.pageSize,
      content (Paging.resolve {} page (s.1.paging, s.2)).state.1.places c.pageSize
          (memory (Paging.resolve {} page (s.1.paging, s.2)).state.2) other offset =
        content s.1.paging.places c.pageSize (memory s.2) other offset)
  := by
  obtain ⟨g, words⟩ := course.guarded suits
  have ends : Paging.Resolution {} page (s.1.paging, s.2) _ _ := Paging.resolve_ends
  obtain ⟨iff, unmoved⟩ := ends.refused suits.paged suits.fits (fun _ => Stores.has_default)
    words g
  obtain ⟨-, kept⟩ := ends.keeps suits.fits g
  use iff
  intro failed
  use unmoved failed
  apply kept.content

/-- The small space with one frame and one slot, after faults of its first two pages. -/
def twoPages : Space Config.small × Memories :=
  (onPaging (Paging.resolve {} 1) onePage).state

/-- The first page is swapped and cannot come back. -/
theorem fault_refusal_twoPages :
  Course (.alone (·.Unused 2) (· = {})) twoPages ∧ Config.small.Suits 2 ∧
  (twoPages.1.paging.entry 0).isSwapped = true ∧
  (Paging.resolve {} 0 (twoPages.1.paging, twoPages.2)).answer = .error .mappingFailed ∧
  Paging.Unmoved (twoPages.1.paging, twoPages.2)
    (Paging.resolve {} 0 (twoPages.1.paging, twoPages.2)).state
  := by
  have course : Course (.alone (·.Unused 2) (· = {})) twoPages := by
    have first : Course (.alone (·.Unused 2) (· = {})) onePage := course_onePage rfl unused_cramped
    exact first.fault rfl 1
  have swapped : (twoPages.1.paging.entry 0).isSwapped = true := by decide +kernel
  have refusal : Paging.refusal 0 (twoPages.1.paging, twoPages.2) = some .mappingFailed := by
    decide +kernel
  obtain ⟨iff, still⟩ := course.fault_refusal suits_small 0 .mappingFailed
  have failed := iff.mpr refusal
  use course, suits_small, swapped, failed
  apply (still failed).1

end Space

end VirtualMemory
