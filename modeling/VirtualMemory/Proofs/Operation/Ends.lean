import VirtualMemory.Store.Backing
import Mathlib.Tactic.Use

/-!
# How operations end

`x.Ends s Q R` says that the operation `x`, started in `s`, either succeeds with a value and a
state in `Q`, or fails with an error and a state in `R`.  One equivalence for each way of
forming operations reduces such a statement to statements about the parts.  `x.Preserves I`
says that `x` keeps an invariant `I` of the state, whether it succeeds or fails.
-/

namespace VirtualMemory.Op

variable {σ τ ρ κ ω α β : Type}

/-- The operation succeeds in `Q` or fails in `R`. -/
def Ends (x : Op σ α) (s : σ) (Q : α → σ → Prop) (R : Error → σ → Prop) : Prop :=
  match (x s).answer with
  | .ok a => Q a (x s).state
  | .error e => R e (x s).state

/-- A property of answer and state, as a way to end. -/
theorem ends_iff_answer {x : Op σ α} {s : σ} {P : Except Error α → σ → Prop} :
  x.Ends s (fun a => P (.ok a)) (fun e => P (.error e)) ↔ P (x s).answer (x s).state
  := by
  rw [Ends]
  split
  · next h => rw [h]
  · next h => rw [h]

/-- The state in which an operation ends, whatever the answer. -/
theorem ends_iff_state {x : Op σ α} {s : σ} {P : σ → Prop} :
  x.Ends s (fun _ => P) (fun _ => P) ↔ P (x s).state
  := ends_iff_answer (P := fun _ => P)

/-- A function of the answer does not change the state. -/
theorem state_map {x : Op σ α} {f : α → β} {s : σ} :
  ((f <$> x) s).state = (x s).state
  := by
  rw [map_eq_pure_bind, run_bind]
  rcases x s with ⟨answer | answer, state, events⟩
  · rfl
  · rfl

/-- A function of the answer is applied to the answer. -/
theorem answer_map {x : Op σ α} {f : α → β} {s : σ} :
  ((f <$> x) s).answer = (x s).answer.map f
  := by
  rw [map_eq_pure_bind, run_bind]
  rcases x s with ⟨answer | answer, state, events⟩
  · rfl
  · rfl

/-- An operation that ends in `Q` or `R` ends in everything that these imply. -/
theorem Ends.mono {x : Op σ α} {s : σ} {Q Q' : α → σ → Prop} {R R' : Error → σ → Prop}
    (h : x.Ends s Q R) (hQ : ∀ a s', Q a s' → Q' a s') (hR : ∀ e s', R e s' → R' e s') :
  x.Ends s Q' R'
  := by
  rw [Ends] at h ⊢
  split at h
  · apply hQ _ _ h
  · apply hR _ _ h

/-- What holds of a success. -/
theorem Ends.of_ok {x : Op σ α} {s : σ} {Q : α → σ → Prop} {R : Error → σ → Prop} {a : α}
    (h : x.Ends s Q R) (ok : (x s).answer = .ok a) :
  Q a (x s).state
  := by
  rw [Ends, ok] at h
  apply h

/-- An operation that does not fail answers. -/
theorem Ends.exists_ok {x : Op σ α} {s : σ} {Q : α → σ → Prop}
    (h : x.Ends s Q (fun _ _ => False)) :
  ∃ a, (x s).answer = .ok a ∧ Q a (x s).state
  := by
  rw [Ends] at h
  split at h
  · next a ok =>
      use a
  · cases h

/-- An operation that does not answer fails. -/
theorem Ends.exists_error {x : Op σ α} {s : σ} {R : Error → σ → Prop}
    (h : x.Ends s (fun _ _ => False) R) :
  ∃ e, (x s).answer = .error e ∧ R e (x s).state
  := by
  rw [Ends] at h
  split at h
  · cases h
  · next e error =>
      use e

/-! ### Each way of forming operations -/

variable {s : σ} {Q : α → σ → Prop} {R : Error → σ → Prop}

@[simp]
theorem ends_pure {a : α} :
  (pure a : Op σ α).Ends s Q R ↔ Q a s
  := Iff.rfl

@[simp]
theorem ends_fail {e : Error} :
  (fail e : Op σ α).Ends s Q R ↔ R e s
  := Iff.rfl

@[simp]
theorem ends_ofExcept {r : Except Error α} :
  (ofExcept r).Ends s Q R ↔ match r with
    | .ok a => Q a s
    | .error e => R e s
  := by
  rw [Ends, run_ofExcept]

@[simp]
theorem ends_gets {f : σ → α} :
  (gets f).Ends s Q R ↔ Q (f s) s
  := Iff.rfl

@[simp]
theorem ends_modify {f : σ → σ} {Q : Unit → σ → Prop} :
  (modify f).Ends s Q R ↔ Q () (f s)
  := Iff.rfl

@[simp]
theorem ends_emit {e : Event} {Q : Unit → σ → Prop} :
  (emit e).Ends s Q R ↔ Q () s
  := Iff.rfl

/-- The second operation starts where the first one succeeds. -/
@[simp]
theorem ends_bind {x : Op σ α} {f : α → Op σ β} {Q : β → σ → Prop} :
  (x >>= f).Ends s Q R ↔ x.Ends s (fun a s' => (f a).Ends s' Q R) R
  := by
  rw [Ends, Ends]
  cases h : (x s).answer with
  | ok a => rw [run_bind_of_ok h]; rfl
  | error e => rw [run_bind_of_error h]

@[simp]
theorem ends_map {x : Op σ α} {f : α → β} {Q : β → σ → Prop} :
  (f <$> x).Ends s Q R ↔ x.Ends s (fun a => Q (f a)) R
  := by
  rw [map_eq_pure_bind, ends_bind]
  rfl

@[simp]
theorem ends_attempt {x : Op σ α} {Q : Except Error α → σ → Prop} :
  (attempt x).Ends s Q R ↔ x.Ends s (fun a => Q (.ok a)) (fun e => Q (.error e))
  := by
  rw [ends_iff_answer]
  rfl

@[simp]
theorem ends_mapError {x : Op σ α} {f : Error → Error} :
  (mapError f x).Ends s Q R ↔ x.Ends s Q (fun e => R (f e))
  := by
  rw [Ends, Ends, run_mapError]
  cases (x s).answer with
  | ok a => rfl
  | error e => rfl

/-- The clean-up runs where the operation fails, and its own end does not matter. -/
@[simp]
theorem ends_onFailure {x : Op σ α} {undo : Error → Op σ Unit} :
  (onFailure x undo).Ends s Q R ↔
    x.Ends s Q (fun e s' => (undo e).Ends s' (fun _ => R e) (fun _ => R e))
  := by
  rw [Ends, Ends]
  cases h : (x s).answer with
  | ok a => simp only [run_onFailure_of_ok h, h]
  | error e => simp only [run_onFailure_of_error h, ends_iff_state]

section Pairs

variable {s : κ × ω} {Q : α → κ × ω → Prop} {R : Error → κ × ω → Prop}

@[simp]
theorem ends_onFirst {x : Op κ α} :
  (onFirst x).Ends s Q R ↔ x.Ends s.1 (fun a k => Q a (k, s.2)) (fun e k => R e (k, s.2))
  := Iff.rfl

@[simp]
theorem ends_onSecond {x : Op ω α} :
  (onSecond x).Ends s Q R ↔ x.Ends s.2 (fun a w => Q a (s.1, w)) (fun e w => R e (s.1, w))
  := Iff.rfl

/-- A request to the stores succeeds or is refused. -/
@[simp]
theorem ends_access {x : Access ω α} :
  (access x).Ends s Q R ↔ match x s.2 with
    | (.ok a, w) => Q a (s.1, w)
    | (.error e, w) => R (.store e) (s.1, w)
  := by
  rw [access, ends_onSecond, Ends, run_ofAccess]
  rcases x s.2 with ⟨answer | answer, w⟩ <;> rfl

@[simp]
theorem ends_release [Backing ω] {device : Device} {frame : Nat} {Q : Unit → κ × ω → Prop} :
  (release device frame).Ends s Q R ↔ Q () (s.1, Backing.releaseFrame device frame s.2)
  := Iff.rfl

end Pairs

theorem ends_require {stores : Stores} {device : Device} {Q : Unit → σ → Prop} :
  (require stores device).Ends s Q R ↔
    (stores.has device = true → Q () s) ∧ (stores.has device = false → R .invalidContext s)
  := by
  rw [require]
  split
  · next h => simp [h]
  · next h => simp [h]

/-! ### Invariants -/

/-- The operation keeps an invariant, whether it succeeds or fails. -/
structure Preserves (I : σ → Prop) (x : Op σ α) : Prop where
  state : ∀ s, I s → I (x s).state

theorem preserves_iff {I : σ → Prop} {x : Op σ α} :
  x.Preserves I ↔ ∀ s, I s → x.Ends s (fun _ => I) (fun _ => I)
  := by
  simp only [ends_iff_state]
  use Preserves.state
  apply Preserves.mk

variable {I : σ → Prop}

theorem Preserves.pure {a : α} :
  (pure a : Op σ α).Preserves I
  := ⟨fun _ h => h⟩

theorem Preserves.fail {e : Error} :
  (fail e : Op σ α).Preserves I
  := ⟨fun _ h => h⟩

theorem Preserves.gets {f : σ → α} :
  (gets f).Preserves I
  := ⟨fun _ h => h⟩

theorem Preserves.emit {e : Event} :
  (emit e : Op σ Unit).Preserves I
  := ⟨fun _ h => h⟩

theorem Preserves.ofExcept {r : Except Error α} :
  (ofExcept r : Op σ α).Preserves I
  := by
  constructor
  intro s h
  rw [run_ofExcept]
  apply h

theorem Preserves.require {stores : Stores} {device : Device} :
  (require stores device : Op σ Unit).Preserves I
  := by
  rw [Op.require]
  split
  · apply Preserves.pure
  · apply Preserves.fail

theorem Preserves.bind {x : Op σ α} {f : α → Op σ β}
    (hx : x.Preserves I) (hf : ∀ a, (f a).Preserves I) :
  (x >>= f).Preserves I
  := by
  rw [preserves_iff] at hx ⊢
  intro s h
  rw [ends_bind]
  apply (hx s h).mono
  · intro a s' h'
    apply preserves_iff.mp (hf a) s' h'
  · intro e s' h'
    apply h'

theorem Preserves.map {x : Op σ α} {f : α → β} (hx : x.Preserves I) :
  (f <$> x).Preserves I
  := by
  rw [map_eq_pure_bind]
  apply Preserves.bind hx
  intro a
  apply Preserves.pure

theorem Preserves.mapError {x : Op σ α} {f : Error → Error} (hx : x.Preserves I) :
  (mapError f x).Preserves I
  := ⟨hx.state⟩

theorem Preserves.onFailure {x : Op σ α} {undo : Error → Op σ Unit}
    (hx : x.Preserves I) (hu : ∀ e, (undo e).Preserves I) :
  (onFailure x undo).Preserves I
  := by
  rw [preserves_iff] at hx ⊢
  intro s h
  rw [ends_onFailure]
  apply (hx s h).mono
  · intro a s' h'
    apply h'
  · intro e s' h'
    apply preserves_iff.mp (hu e) s' h'

end VirtualMemory.Op
