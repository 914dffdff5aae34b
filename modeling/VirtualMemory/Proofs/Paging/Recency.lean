import VirtualMemory.Proofs.Paging.Agreement

/-!
# The order in which pages became resident

A history lists moments in the life of the pages of an address space, the newest one first: the
end of each page fault and the end of each command.  The age of a page is the number of moments
for which it has been resident without a break.  As long as no fault is disturbed, the list of
resident pages is ordered by age, so that the page chosen for eviction is the one that has been
resident longest.

A fault is disturbed if it has to evict the oldest of several pages and cannot copy it: that
page becomes the last one of the list then, although its age is greater than that of the others.
This is the only way in which the order is lost.
-/

namespace VirtualMemory.Paging

open Backing

variable {c : Config} {ω : Type} {p p' : Paging c} {page victim a b : Nat}

/-! ### Histories -/

/-- A moment in the life of the pages of an address space. -/
inductive Moment (c : Config) (ω : Type)
  /-- The end of a page fault, for which the caller brought certain stores. -/
  | fault (stores : Stores) (before : Paging c × ω) (after : Paging c)
  /-- The end of a command. -/
  | ended (after : Paging c)

/-- The pages at a moment. -/
def Moment.pages : Moment c ω → Paging c
  | fault _ _ after => after
  | ended after => after

/-- Moments, the newest one first. -/
abbrev History (c : Config) (ω : Type) : Type := List (Moment c ω)

/-- For how many moments a page has been resident without a break. -/
def age (history : History c ω) (page : Nat) : Nat :=
  (history.takeWhile fun m => (m.pages.entry page).isResident).length

/-- At the newest moment the resident pages are listed by age, the oldest one first. -/
def Ordered (history : History c ω) : Prop :=
  ∀ m ∈ history.head?,
    m.pages.residency.pages.Pairwise fun a b => age history b < age history a

/-- At every moment the resident pages are listed by age. -/
def Always (history : History c ω) : Prop := ∀ older, older <:+ history → Ordered older

/-- The main store has no free frame, and the oldest of several resident pages cannot be copied
to a slot. -/
inductive Disturbed [Backing ω] (stores : Stores) : Paging c × ω → Prop
  | uncopied {p : Paging c} {w w' w'' w₃ : ω} {slot victim next frame : Nat} {rest : List Nat}
      {e : StoreError} (ram : stores.ram = true) (swap : stores.swap = true)
      (exhausted : acquireFrame .ram w = (.error .exhausted, w'))
      (acquired : acquireFrame .swap w' = (.ok slot, w''))
      (oldest : p.residency.pages = victim :: next :: rest)
      (home : (p.entry victim).frame? = some frame)
      (copied : copyPage c.pageSize .ram frame .swap slot w'' = (.error e, w₃)) :
    Disturbed stores (p, w)

/-- Whether a moment is the end of a disturbed fault. -/
def Moment.Disturbed [Backing ω] : Moment c ω → Prop
  | fault stores before _ => Paging.Disturbed stores before
  | ended _ => False

/-- No fault was disturbed. -/
def Calm [Backing ω] (history : History c ω) : Prop := ∀ m ∈ history, ¬ m.Disturbed

variable {history older : History c ω} {m : Moment c ω}

theorem age_cons :
  age (m :: history) page =
    if (m.pages.entry page).isResident = true then age history page + 1 else 0
  := by
  rw [age, List.takeWhile_cons]
  split
  · rfl
  · rfl

theorem always_cons :
  Always (m :: history) ↔ Ordered (m :: history) ∧ Always history
  := by
  simp only [Always, List.suffix_cons_iff]
  constructor
  · intro all
    use all _ (Or.inl rfl)
    intro older suffix
    apply all older (Or.inr suffix)
  · rintro ⟨newest, all⟩ older (rfl | suffix)
    · apply newest
    · apply all older suffix

/-! ### Dated pages -/

/-- The resident pages are those with an age, and are listed by age. -/
structure Dated (history : History c ω) (p : Paging c) : Prop where
  agreement : p.Agreement
  listed : ∀ page < pageLimit, 0 < age history page ↔ page ∈ p.residency.pages
  ordered : p.residency.pages.Pairwise fun a b => age history b < age history a

theorem dated_empty :
  Dated ([] : History c ω) (empty c)
  := by
  use agreement_empty
  · intro page below
    constructor
    · intro pos
      cases pos
    · intro mem
      cases mem
  · apply List.Pairwise.nil

theorem Dated.ordered_head (h : Dated (m :: history) m.pages) :
  Ordered (m :: history)
  := by
  intro newest mem
  obtain rfl := Option.some.inj mem
  apply h.ordered

/-- A page that is resident is one moment older than at the moment before. -/
theorem age_of_mem (fits : c.maxPages ≤ pageLimit) (a : m.pages.Agreement)
    (mem : page ∈ m.pages.residency.pages) :
  age (m :: history) page = age history page + 1
  := by
  have below : page < pageLimit := lt_of_lt_of_le (a.below page mem) fits
  rw [age_cons, if_pos ((a.mem_iff page below).mp mem)]

section Next

variable (h : Dated history p) (fits : c.maxPages ≤ pageLimit)
include h fits

/-- Only pages that are resident have an age. -/
theorem Dated.age_eq_zero (below : page < c.maxPages) (absent : page ∉ p.residency.pages) :
  age history page = 0
  := by
  apply Nat.eq_zero_of_not_pos
  intro pos
  apply absent ((h.listed page (lt_of_lt_of_le below fits)).mp pos)

theorem Dated.age_pos (mem : page ∈ p.residency.pages) :
  0 < age history page
  := (h.listed page (lt_of_lt_of_le (h.agreement.below page mem) fits)).mpr mem

/-- The pages stay dated if some of them leave and at most one joins at the end. -/
theorem Dated.next (a : m.pages.Agreement) {stay new : List Nat}
    (pages : m.pages.residency.pages = stay ++ new) (sub : stay.Sublist p.residency.pages)
    (fresh : ∀ page ∈ new, page ∉ p.residency.pages) (single : new.length ≤ 1) :
  Dated (m :: history) m.pages
  := by
  use a
  · intro page below
    rw [age_cons, a.mem_iff page below]
    split
    · next resident => simp [resident]
    · next absent => simp [absent]
  · have older : ∀ page ∈ m.pages.residency.pages,
        age (m :: history) page = age history page + 1
      := fun page => age_of_mem fits a
    have mem_stay {page : Nat} (mem : page ∈ stay) : page ∈ m.pages.residency.pages := by
      rw [pages]
      apply List.mem_append_left new mem
    rw [pages, List.pairwise_append]
    constructor
    · apply (h.ordered.sublist sub).imp_of_mem
      intro x y mem mem' lt
      rw [older x (mem_stay mem), older y (mem_stay mem')]
      apply Nat.succ_lt_succ lt
    constructor
    · match new, single with
      | [], _ => apply List.Pairwise.nil
      | [_], _ => apply List.pairwise_singleton
    · intro x mem y mem'
      have joins : y ∈ m.pages.residency.pages := by
        rw [pages]
        apply List.mem_append_right stay mem'
      rw [older x (mem_stay mem), older y joins,
        h.age_eq_zero fits (a.below y joins) (fresh y mem')]
      apply Nat.succ_lt_succ
      apply h.age_pos fits (sub.mem mem)

/-- The pages are not listed by age if the oldest one becomes the last. -/
theorem Dated.not_ordered (a : m.pages.Agreement) {next : Nat} {rest : List Nat}
    (oldest : p.residency.pages = victim :: next :: rest)
    (pages : m.pages.residency.pages = next :: (rest ++ [victim])) :
  ¬ Ordered (m :: history)
  := by
  intro ordered
  have now := ordered m rfl
  have was := h.ordered
  rw [pages] at now
  rw [oldest] at was
  have younger := (List.pairwise_cons.mp now).1 victim (by simp)
  have elder := (List.pairwise_cons.mp was).1 next (by simp)
  rw [age_of_mem fits a (by simp [pages]), age_of_mem fits a (by simp [pages])] at younger
  omega

end Next

/-- Of two resident pages the older one comes first. -/
theorem Dated.sublist_iff (h : Dated history p) (mem : a ∈ p.residency.pages)
    (mem' : b ∈ p.residency.pages) :
  [a, b].Sublist p.residency.pages ↔ age history b < age history a
  := by
  have earlier {a b : Nat} (sub : [a, b].Sublist p.residency.pages) :
      age history b < age history a
    := List.pairwise_iff_forall_sublist.mp h.ordered sub
  use earlier
  intro lt
  obtain ⟨before, after, split⟩ := List.append_of_mem mem
  rw [split] at mem' earlier ⊢
  rcases List.mem_append.mp mem' with first | second
  · have reversed : [b, a].Sublist (before ++ a :: after) := by
      apply List.Sublist.append (List.singleton_sublist.mpr first)
      apply List.singleton_sublist.mpr List.mem_cons_self
    have gt := earlier reversed
    omega
  · rcases List.mem_cons.mp second with rfl | second
    · exact absurd lt (Nat.lt_irrefl _)
    · apply List.Sublist.trans _ (List.sublist_append_right before _)
      apply List.Sublist.cons_cons a (List.singleton_sublist.mpr second)

/-! ### Faults -/

section Faults

variable [Backing ω] {stores : Stores} {s s' : Paging c × ω} {answer : Except Error Nat}

/-- What a fault makes of the list of resident pages: if the fault is disturbed the oldest page
becomes the last one, else that page leaves, or does not, and new ones may join at the end. -/
inductive Turn (stores : Stores) (s : Paging c × ω) (new : List Nat) (p' : Paging c) : Prop
  | disturbed {victim next : Nat} {rest : List Nat} (disturbed : Disturbed stores s)
      (oldest : s.1.residency.pages = victim :: next :: rest)
      (pages : p'.residency.pages = next :: (rest ++ [victim]))
  | calm {gone stay joined : List Nat} (calm : ¬ Disturbed stores s)
      (pages : s.1.residency.pages = gone ++ stay) (one : gone.length ≤ 1)
      (pages' : p'.residency.pages = stay ++ joined) (sub : joined.Sublist new)

/-- No page leaves and none joins. -/
theorem Turn.still {new : List Nat} (calm : ¬ Disturbed stores s)
    (same : p'.residency.pages = s.1.residency.pages) :
  Turn stores s new p'
  := by
  apply Turn.calm calm (List.nil_append _).symm (Nat.zero_le 1) _ (List.nil_sublist new)
  rw [same, List.append_nil]

/-- Pages that could join need not. -/
theorem Turn.alone {new : List Nat} (turn : Turn stores s [] p') :
  Turn stores s new p'
  := by
  cases turn with
  | disturbed disturbed oldest pages => apply Turn.disturbed disturbed oldest pages
  | calm calm pages one pages' sub =>
      obtain rfl := List.sublist_nil.mp sub
      apply Turn.calm calm pages one pages' (List.nil_sublist new)

/-- A page joins after a fault that is not disturbed. -/
theorem Turn.install {e : Entry} (turn : Turn stores s [] p) (calm : ¬ Disturbed stores s) :
  Turn stores s [page] (p.install page e)
  := by
  cases turn with
  | disturbed disturbed oldest pages => exact absurd disturbed calm
  | calm calm pages one pages' sub =>
      obtain rfl := List.sublist_nil.mp sub
      rw [List.append_nil] at pages'
      apply Turn.calm calm pages one _ (List.Sublist.refl [page])
      show p.residency.pages ++ [page] = _
      rw [pages']

/-- The search for a frame makes no page join, and fails if it is disturbed. -/
theorem Obtaining.turn (h : Obtaining stores s answer s') (fits : c.maxPages ≤ pageLimit)
    (a : s.1.Agreement) :
  Turn stores s [] s'.1 ∧ ∀ frame, answer = .ok frame → ¬ Disturbed stores s
  := by
  have still (calm : ¬ Disturbed stores s) (same : s'.1.residency.pages = s.1.residency.pages) :
      Turn stores s [] s'.1 ∧ ∀ frame, answer = .ok frame → ¬ Disturbed stores s
    := ⟨.still calm same, fun _ _ => calm⟩
  cases h with
  | noStore missing =>
      apply still _ rfl
      rintro ⟨ram, swap, exhausted, acquired, oldest, home, copied⟩
      cases missing.symm.trans ram
  | free brought obtained =>
      apply still _ rfl
      rintro ⟨ram, swap, exhausted, acquired, oldest, home, copied⟩
      cases obtained.symm.trans exhausted
  | refused brought obtained other =>
      apply still _ rfl
      rintro ⟨ram, swap, exhausted, acquired, oldest, home, copied⟩
      cases obtained.symm.trans exhausted
      apply other rfl
  | @full p w w' _ _ brought obtained eviction =>
      cases eviction with
      | noStore missing =>
          apply still _ rfl
          rintro ⟨ram, swap, exhausted, acquired, oldest, home, copied⟩
          cases missing.symm.trans swap
      | noSlot brought' refused =>
          apply still _ rfl
          rintro ⟨ram, swap, exhausted, acquired, oldest, home, copied⟩
          cases obtained.symm.trans exhausted
          cases refused.symm.trans acquired
      | noVictim brought' taken idle =>
          apply still _ rfl
          rintro ⟨ram, swap, exhausted, acquired, oldest, home, copied⟩
          cases idle.symm.trans oldest
      | homeless brought' taken oldest home =>
          exact absurd home (a.frame?_oldest_ne_none fits oldest)
      | @uncopied p w w' w'' slot victim frame rest e brought' taken oldest home uncopied =>
          cases rest with
          | nil =>
              apply still _ oldest.symm
              rintro ⟨ram, swap, exhausted, acquired, oldest', home', copied⟩
              cases oldest.symm.trans oldest'
          | cons next rest =>
              constructor
              · apply Turn.disturbed _ oldest rfl
                apply Disturbed.uncopied brought brought' obtained taken oldest home uncopied
              · intro frame ok
                cases ok
      | @evicted _ _ _ _ slot victim frame rest brought' taken oldest home done =>
          have calm : ¬ Disturbed stores (p, w) := by
            rintro ⟨ram, swap, exhausted, acquired, oldest', home', copied⟩
            cases obtained.symm.trans exhausted
            cases taken.symm.trans acquired
            cases oldest.symm.trans oldest'
            cases home.symm.trans home'
            cases done.symm.trans copied
          constructor
          · have left : p.residency.pages = [victim] ++ rest := oldest
            exact Turn.calm calm left (Nat.le_refl 1) (List.append_nil rest).symm
              (List.Sublist.refl [])
          · intro _ _
            apply calm

theorem Mapping.turn (h : Mapping stores page s answer s') (fits : c.maxPages ≤ pageLimit)
    (a : s.1.Agreement) :
  Turn stores s [page] s'.1
  := by
  cases h with
  | noFrame obtaining => apply (obtaining.turn fits a).1.alone
  | rejected obtaining unfit => exact (obtaining.turn fits a).1.alone
  | uncleared obtaining cleared => exact (obtaining.turn fits a).1.alone
  | mapped obtaining fit cleared =>
      obtain ⟨turn, calm⟩ := obtaining.turn fits a
      apply turn.install (calm _ rfl)

theorem Return.turn {slot : Nat} (h : Return stores page slot s answer s')
    (fits : c.maxPages ≤ pageLimit) (a : s.1.Agreement) :
  Turn stores s [page] s'.1
  := by
  cases h with
  | noStore missing =>
      apply Turn.still _ rfl
      rintro ⟨ram, swap, exhausted, acquired, oldest, home, copied⟩
      cases missing.symm.trans swap
  | noFrame obtaining => apply (obtaining.turn fits a).1.alone
  | uncopied brought obtaining copied => exact (obtaining.turn fits a).1.alone
  | rejected brought obtaining copied unfit => exact (obtaining.turn fits a).1.alone
  | returned brought obtaining copied fit =>
      obtain ⟨turn, calm⟩ := obtaining.turn fits a
      apply turn.install (calm _ rfl)

/-- A fault at a page that is not resident turns the list of resident pages. -/
theorem Resolution.turn (h : Resolution stores page s answer s') (fits : c.maxPages ≤ pageLimit)
    (a : s.1.Agreement) (mode : c.mode = .paged) (below : page < c.maxPages)
    (absent : (s.1.entry page).isResident = false) :
  Turn stores s [page] s'.1
  := by
  cases h with
  | beyond above => exact absurd below (Nat.not_lt_of_le above)
  | identity below mode' =>
      rw [mode] at mode'
      cases mode'
  | resident below mode place =>
      rw [Entry.isResident_iff.mpr ⟨_, place⟩] at absent
      cases absent
  | swapped below mode place fault => apply fault.turn fits a
  | unmapped below mode place fault => apply fault.turn fits a

/-! ### Chains of moments -/

/-- Histories in which each moment follows from the one before: a page that is not resident is
asked for, or some pages cease to be resident and none joins.  The pages are those at the newest
moment. -/
inductive Chain : History c ω → Paging c → Prop
  | start : Chain [] (empty c)
  | fault {history : History c ω} {stores : Stores} {page : Nat} {s : Paging c × ω}
      {p' : Paging c} (chain : Chain history s.1) (absent : page ∉ s.1.residency.pages)
      (turn : Turn stores s [page] p') (agreement : p'.Agreement) :
    Chain (.fault stores s p' :: history) p'
  | ended {history : History c ω} {p p' : Paging c} (chain : Chain history p)
      (sub : p'.residency.pages.Sublist p.residency.pages) (agreement : p'.Agreement) :
    Chain (.ended p' :: history) p'

theorem Chain.agreement (h : Chain history p) :
  p.Agreement
  := by
  cases h with
  | start => apply agreement_empty
  | fault chain absent turn agreement => apply agreement
  | ended chain sub agreement => apply agreement

/-- A chain up to some moment is a chain. -/
theorem Chain.of_suffix (h : Chain history p) (suffix : m :: older <:+ history) :
  Chain (m :: older) m.pages
  := by
  induction h with
  | start => cases List.suffix_nil.mp suffix
  | fault chain absent turn agreement ih =>
      rcases List.suffix_cons_iff.mp suffix with eq | suffix
      · cases eq
        apply Chain.fault chain absent turn agreement
      · apply ih suffix
  | ended chain sub agreement ih =>
      rcases List.suffix_cons_iff.mp suffix with eq | suffix
      · cases eq
        apply Chain.ended chain sub agreement
      · apply ih suffix

omit [Backing ω] in
/-- Pages that leave do not change the order of the others. -/
theorem Dated.ended (h : Dated history p) (fits : c.maxPages ≤ pageLimit)
    (sub : p'.residency.pages.Sublist p.residency.pages) (a : p'.Agreement) :
  Dated (.ended p' :: history) p'
  := by
  apply h.next (m := .ended p') fits a (List.append_nil _).symm sub _ (Nat.zero_le 1)
  intro page mem
  cases mem

/-- A fault loses the order if it is disturbed, and keeps it if it is not. -/
theorem Dated.turn (h : Dated history s.1) (fits : c.maxPages ≤ pageLimit)
    (absent : page ∉ s.1.residency.pages) (turn : Turn stores s [page] p') (a : p'.Agreement) :
  (Disturbed stores s ∧ ¬ Ordered (.fault stores s p' :: history)) ∨
  (¬ Disturbed stores s ∧ Dated (.fault stores s p' :: history) p')
  := by
  cases turn with
  | disturbed disturbed oldest pages =>
      left
      use disturbed
      exact h.not_ordered fits a oldest pages
  | calm calm pages one pages' sub =>
      right
      use calm
      apply h.next (m := .fault stores s p') fits a pages'
      · rw [pages]
        apply List.sublist_append_right
      · intro other mem
        rw [List.mem_singleton.mp (sub.mem mem)]
        apply absent
      · apply sub.length_le

/-- As long as no fault is disturbed, the pages are dated. -/
theorem Chain.dated (h : Chain history p) (fits : c.maxPages ≤ pageLimit)
    (calm : Calm history) :
  Dated history p
  := by
  induction h with
  | start => apply dated_empty
  | fault chain absent turn agreement ih =>
      obtain ⟨unhurt, calm⟩ := List.forall_mem_cons.mp calm
      rcases (ih calm).turn fits absent turn agreement with ⟨disturbed, -⟩ | ⟨-, dated⟩
      · exact absurd disturbed unhurt
      · apply dated
  | ended chain sub agreement ih =>
      apply (ih (List.forall_mem_cons.mp calm).2).ended fits sub agreement

/-- The pages are listed by age at every moment exactly if no fault is disturbed. -/
theorem Chain.always_iff (h : Chain history p) (fits : c.maxPages ≤ pageLimit) :
  Always history ↔ Calm history
  := by
  induction h with
  | start =>
      constructor
      · intro always m mem
        cases mem
      · intro calm older suffix m mem
        rw [List.suffix_nil.mp suffix] at mem
        cases mem
  | @fault history stores page s p' chain absent turn agreement ih =>
      rw [always_cons, Calm, List.forall_mem_cons, ih, ← Calm, and_congr_left_iff]
      intro calm
      rcases (chain.dated fits calm).turn fits absent turn agreement with
        ⟨disturbed, lost⟩ | ⟨unhurt, dated⟩
      · constructor
        · intro ordered
          apply absurd ordered lost
        · intro calm
          apply absurd disturbed calm
      · constructor
        · intro _
          apply unhurt
        · intro _
          apply Dated.ordered_head (m := .fault stores s p') dated
  | @ended history p p' chain sub agreement ih =>
      rw [always_cons, Calm, List.forall_mem_cons, ih, ← Calm, and_congr_left_iff]
      intro calm
      have dated := (chain.dated fits calm).ended fits sub agreement
      constructor
      · intro _ disturbed
        apply disturbed
      · intro _
        apply Dated.ordered_head (m := .ended p') dated

/-- The page that loses its frame to a fault has been resident for longer than all others.  A fault
that only reorders the pages takes the frame of none. -/
theorem Chain.oldest {before : Paging c × ω} {after : Paging c}
    (h : Chain (.fault stores before after :: older) p) (fits : c.maxPages ≤ pageLimit)
    (calm : Calm older) (mem : victim ∈ before.1.residency.pages)
    (gone : victim ∉ after.residency.pages) {other : Nat}
    (mem' : other ∈ before.1.residency.pages) (ne : other ≠ victim) :
  age older other < age older victim
  := by
  cases h with
  | fault chain absent turn agreement =>
      have dated := chain.dated fits calm
      cases turn with
      | disturbed disturbed oldest pages =>
          rw [oldest] at mem
          rw [pages] at gone
          simp only [List.mem_cons, List.mem_append, List.not_mem_nil, or_false] at mem gone
          tauto
      | @calm left stay joined calm pages one pages' sub =>
          rw [pages', List.mem_append, not_or] at gone
          have ordered := dated.ordered
          rw [pages] at mem mem' ordered
          have first : victim ∈ left := (List.mem_append.mp mem).resolve_right gone.1
          obtain rfl : left = [victim] := by
            match left, one, first with
            | [_], _, first => rw [List.mem_singleton.mp first]
          have second : other ∈ stay := by
            apply (List.mem_append.mp mem').resolve_left
            simpa using ne
          apply (List.pairwise_cons.mp ordered).1 other second

omit [Backing ω] in
/-- A page that stays resident for some moments is older by their number. -/
theorem age_append (fits : c.maxPages ≤ pageLimit) {later : History c ω}
    (stays : ∀ m ∈ later, m.pages.Agreement ∧ page ∈ m.pages.residency.pages) :
  age (later ++ older) page = age older page + later.length
  := by
  induction later with
  | nil => rfl
  | cons m later ih =>
      obtain ⟨⟨a, mem⟩, stays⟩ := List.forall_mem_cons.mp stays
      rw [List.cons_append, age_of_mem fits a mem, ih stays, List.length_cons, Nat.add_assoc]

/-- Pages that stay resident are listed in the same order at all moments. -/
theorem Chain.steady {m m' : Moment c ω} {later : History c ω}
    (h : Chain (m' :: later ++ m :: older) p) (fits : c.maxPages ≤ pageLimit)
    (calm : Calm (m' :: later ++ m :: older))
    (stays : ∀ x ∈ m' :: later ++ [m], ∀ page ∈ [a, b], page ∈ x.pages.residency.pages) :
  [a, b].Sublist m'.pages.residency.pages ↔ [a, b].Sublist m.pages.residency.pages
  := by
  have suffix : m :: older <:+ m' :: later ++ m :: older := List.suffix_append _ _
  have dated' : Dated (m' :: later ++ m :: older) m'.pages :=
    (h.of_suffix (List.suffix_refl _)).dated fits calm
  have dated := (h.of_suffix suffix).dated fits fun x mem => calm x (suffix.mem mem)
  have agreement : ∀ x ∈ m' :: later, x.pages.Agreement := by
    intro x mem
    obtain ⟨front, back, split⟩ := List.append_of_mem mem
    have part : x :: (back ++ m :: older) <:+ m' :: later ++ m :: older := by
      rw [split, List.append_assoc]
      apply List.suffix_append
    apply (h.of_suffix part).agreement
  have age_eq (page : Nat) (mem : page ∈ [a, b]) :
      age (m' :: later ++ m :: older) page = age (m :: older) page + (m' :: later).length
    := by
    apply age_append fits
    intro x mem_x
    use agreement x mem_x
    apply stays x (List.mem_append_left _ mem_x) page mem
  have first := stays m' (by simp)
  have last := stays m (by simp)
  rw [dated'.sublist_iff (first a (by simp)) (first b (by simp)),
    dated.sublist_iff (last a (by simp)) (last b (by simp))]
  rw [age_eq a (by simp), age_eq b (by simp), Nat.add_lt_add_iff_right]

/-! ### Ranges -/

/-- The history after `count` pages from `page` on are mapped, or one of them cannot be: there is a
fault for every page that is mapped, and for the one that is not. -/
def rangeHistory (stores : Stores) :
    (count page : Nat) → Paging c × ω → History c ω → History c ω
  | 0, _, _, history => history
  | count + 1, page, s, history =>
    if (s.1.entry page).isPresent then rangeHistory stores count (page + 1) s history
    else
      let fault := Moment.fault stores s (mapPage stores page s).state.1
      match (mapPage stores page s).answer with
      | .ok _ =>
        rangeHistory stores count (page + 1) (mapPage stores page s).state (fault :: history)
      | .error _ => fault :: history

/-- Pages that are withdrawn leave the list, and the others stay in order. -/
theorem sublist_withdraw {pages : List Nat} :
  (pages.foldl (withdraw stores) s).1.residency.pages.Sublist s.1.residency.pages
  := by
  induction pages generalizing s with
  | nil => apply List.Sublist.refl
  | cons page rest ih => apply ih.trans List.erase_sublist

theorem Chain.mapFrom {count : Nat} {mapped : List Nat} (h : Chain history s.1)
    (fits : c.maxPages ≤ pageLimit) (range : page + count ≤ c.maxPages) :
  ∃ p, Chain (rangeHistory stores count page s history) p ∧
    (mapFrom stores count page mapped s).state.1.residency.pages.Sublist p.residency.pages
  := by
  induction count generalizing page s mapped history with
  | zero =>
      use s.1, h
      apply List.Sublist.refl _
  | succ count ih =>
      apply Op.ends_iff_state (P := fun s' : Paging c × ω => ∃ p,
        Chain (rangeHistory stores (count + 1) page s history) p ∧
        s'.1.residency.pages.Sublist p.residency.pages).mp
      simp only [Paging.mapFrom, rangeHistory, lookEntry, Op.ends_bind, Op.ends_gets]
      rcases present : (s.1.entry page).isPresent with - | -
      · have below : page < c.maxPages := by omega
        have absent := Entry.isResident_eq_false_of_absent present
        have fresh : page ∉ s.1.residency.pages := by
          rw [h.agreement.mem_iff page (lt_of_lt_of_le below fits), absent]
          exact Bool.false_ne_true
        have ends : Mapping stores page s _ _ := mapPage_ends
        have faulted := Chain.fault h fresh (ends.turn fits h.agreement)
          (ends.agreement fits below absent h.agreement)
        simp only [Bool.false_eq_true, if_false, Op.ends_bind, Op.ends_onFailure, Op.ends_emit]
        rw [Op.Ends]
        rcases answer : (mapPage stores page s).answer with e | frame
        · dsimp only
          rw [Op.Ends, run_unmapPages]
          apply Exists.intro
          use faulted
          apply sublist_withdraw
        · apply Op.ends_iff_state.mpr
          apply ih faulted
          omega
      · simp only [if_true]
        apply Op.ends_iff_state.mpr
        apply ih h
        omega

end Faults

end VirtualMemory.Paging
