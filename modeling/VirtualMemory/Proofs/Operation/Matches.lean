import VirtualMemory.Proofs.Operation.Ends

/-!
# Operations that match

Two operations, each on states of its own, match along a relation between the states if, started
in related states, they give the same answer and end in related states.  What they report may
differ.  One rule for each way of forming operations reduces such a statement to statements about
the parts.
-/

namespace VirtualMemory.Op

variable {σ τ α β : Type} {R : σ → τ → Prop} {s : σ} {t : τ}

/-- Started in `s` and `t`, the operations give the same answer and end in related states. -/
structure MatchesAt (R : σ → τ → Prop) (x : Op σ α) (y : Op τ α) (s : σ) (t : τ) : Prop where
  answer : (x s).answer = (y t).answer
  state : R (x s).state (y t).state

/-- Started in related states, the operations give the same answer and end in related states. -/
structure Matches (R : σ → τ → Prop) (x : Op σ α) (y : Op τ α) : Prop where
  run : ∀ s t, R s t → x.MatchesAt R y s t

/-! ### Each way of forming operations -/

/-- The second operations start where the first ones succeed. -/
theorem MatchesAt.bind {x : Op σ α} {y : Op τ α} {f : α → Op σ β} {g : α → Op τ β}
    (h : x.MatchesAt R y s t)
    (next : ∀ a, (x s).answer = .ok a → (f a).MatchesAt R (g a) (x s).state (y t).state) :
  (x >>= f).MatchesAt R (y >>= g) s t
  := by
  rcases first : (x s).answer with e | a
  · have first' : (y t).answer = .error e := h.answer.symm.trans first
    constructor
    · rw [run_bind_of_error first, run_bind_of_error first']
    · rw [run_bind_of_error first, run_bind_of_error first']
      apply h.state
  · have first' : (y t).answer = .ok a := h.answer.symm.trans first
    obtain ⟨answer, state⟩ := next a first
    constructor
    · rw [run_bind_of_ok first, run_bind_of_ok first']
      apply answer
    · rw [run_bind_of_ok first, run_bind_of_ok first']
      apply state

theorem MatchesAt.map {x : Op σ α} {y : Op τ α} {f : α → β} (h : x.MatchesAt R y s t) :
  (f <$> x).MatchesAt R (f <$> y) s t
  := by
  rw [map_eq_pure_bind, map_eq_pure_bind]
  apply h.bind
  intro a ok
  constructor
  · rfl
  · apply h.state

namespace Matches

theorem pure {a : α} :
  (pure a : Op σ α).Matches R (pure a)
  := ⟨fun _ _ h => ⟨rfl, h⟩⟩

theorem fail {e : Error} :
  (fail e : Op σ α).Matches R (fail e)
  := ⟨fun _ _ h => ⟨rfl, h⟩⟩

theorem ofExcept {r : Except Error α} :
  (ofExcept r : Op σ α).Matches R (ofExcept r)
  := by
  cases r with
  | ok a => apply Matches.pure
  | error e => apply Matches.fail

/-- What is reported may differ. -/
theorem emit {e e' : Event} :
  (emit e : Op σ Unit).Matches R (emit e')
  := ⟨fun _ _ h => ⟨rfl, h⟩⟩

/-- Related states look the same. -/
theorem gets {f : σ → α} {g : τ → α} (same : ∀ s t, R s t → f s = g t) :
  (gets f).Matches R (gets g)
  := ⟨fun s t h => ⟨congrArg Except.ok (same s t h), h⟩⟩

theorem bind {x : Op σ α} {y : Op τ α} {f : α → Op σ β} {g : α → Op τ β}
    (hx : x.Matches R y) (hf : ∀ a, (f a).Matches R (g a)) :
  (x >>= f).Matches R (y >>= g)
  := by
  constructor
  intro s t h
  apply (hx.run s t h).bind
  intro a ok
  apply (hf a).run _ _ (hx.run s t h).state

theorem mapError {x : Op σ α} {y : Op τ α} {f : Error → Error} (hx : x.Matches R y) :
  (mapError f x).Matches R (mapError f y)
  := ⟨fun s t h => ⟨congrArg (Except.mapError f) (hx.run s t h).answer, (hx.run s t h).state⟩⟩

theorem onFailure {x : Op σ α} {y : Op τ α} {undo : Error → Op σ Unit} {undo' : Error → Op τ Unit}
    (hx : x.Matches R y) (hu : ∀ e, (undo e).Matches R (undo' e)) :
  (onFailure x undo).Matches R (onFailure y undo')
  := by
  constructor
  intro s t h
  obtain ⟨answer, state⟩ := hx.run s t h
  rcases first : (x s).answer with e | a
  · have first' : (y t).answer = .error e := answer.symm.trans first
    constructor
    · rw [run_onFailure_of_error first, run_onFailure_of_error first']
    · rw [run_onFailure_of_error first, run_onFailure_of_error first']
      apply ((hu e).run _ _ state).state
  · have first' : (y t).answer = .ok a := answer.symm.trans first
    constructor
    · rw [run_onFailure_of_ok first, run_onFailure_of_ok first']
      apply answer
    · rw [run_onFailure_of_ok first, run_onFailure_of_ok first']
      apply state

end Matches

end VirtualMemory.Op
