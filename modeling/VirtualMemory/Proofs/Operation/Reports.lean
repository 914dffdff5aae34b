import VirtualMemory.Proofs.Operation.Ends

/-!
# What operations report

`x.Reports s P` says that every event that the operation `x`, started in `s`, reports satisfies
`P`, whether it succeeds or fails.  There is one rule for each way of forming operations.  The
rule for one operation after another comes twice: as an equivalence, which knows the states in
which the first one succeeds, and as a rule for second operations that may start anywhere.
-/

namespace VirtualMemory.Op

variable {σ τ ρ κ ω α β : Type} {s : σ} {P : Event → Prop}

/-- Every event that is reported satisfies `P`. -/
structure Reports (x : Op σ α) (s : σ) (P : Event → Prop) : Prop where
  events : ∀ e ∈ (x s).events, P e

theorem reports_iff {x : Op σ α} :
  x.Reports s P ↔ ∀ e ∈ (x s).events, P e
  := ⟨Reports.events, Reports.mk⟩

/-- What the second operation reports counts if the first one succeeds. -/
theorem reports_bind {x : Op σ α} {f : α → Op σ β} :
  (x >>= f).Reports s P ↔
    x.Reports s P ∧ x.Ends s (fun a s' => (f a).Reports s' P) (fun _ _ => True)
  := by
  simp only [reports_iff, Ends]
  cases h : (x s).answer with
  | ok a => rw [run_bind_of_ok h, List.forall_mem_append]
  | error e => rw [run_bind_of_error h, and_true]

namespace Reports

theorem mono {P' : Event → Prop} {x : Op σ α} (hx : x.Reports s P) (sub : ∀ e, P e → P' e) :
  x.Reports s P'
  := ⟨fun e mem => sub e (hx.events e mem)⟩

theorem pure {a : α} :
  (pure a : Op σ α).Reports s P
  := ⟨fun _ mem => absurd mem List.not_mem_nil⟩

theorem fail {e : Error} :
  (fail e : Op σ α).Reports s P
  := ⟨fun _ mem => absurd mem List.not_mem_nil⟩

theorem gets {f : σ → α} :
  (gets f).Reports s P
  := ⟨fun _ mem => absurd mem List.not_mem_nil⟩

theorem modify {f : σ → σ} :
  (modify f).Reports s P
  := ⟨fun _ mem => absurd mem List.not_mem_nil⟩

theorem emit {e : Event} (h : P e) :
  (emit e : Op σ Unit).Reports s P
  := ⟨List.forall_mem_singleton.mpr h⟩

theorem ofExcept {r : Except Error α} :
  (ofExcept r : Op σ α).Reports s P
  := by
  cases r with
  | ok a => apply pure
  | error e => apply fail

theorem require {stores : Stores} {device : Device} :
  (require stores device : Op σ Unit).Reports s P
  := by
  rw [Op.require]
  split
  · apply pure
  · apply fail

theorem bind {x : Op σ α} {f : α → Op σ β} (hx : x.Reports s P)
    (hf : ∀ a s', (f a).Reports s' P) :
  (x >>= f).Reports s P
  := by
  rw [reports_bind]
  use hx
  rw [Ends]
  split
  · apply hf
  · trivial

theorem attempt {x : Op σ α} (hx : x.Reports s P) :
  (attempt x).Reports s P
  := ⟨hx.events⟩

theorem mapError {f : Error → Error} {x : Op σ α} (hx : x.Reports s P) :
  (mapError f x).Reports s P
  := ⟨hx.events⟩

/-- What a clean-up reports follows what the operation does. -/
theorem onFailure {x : Op σ α} {undo : Error → Op σ Unit} (hx : x.Reports s P)
    (hu : ∀ e s', (undo e).Reports s' P) :
  (onFailure x undo).Reports s P
  := by
  constructor
  cases h : (x s).answer with
  | ok a =>
      rw [run_onFailure_of_ok h]
      apply hx.events
  | error e =>
      rw [run_onFailure_of_error h]
      exact List.forall_mem_append.mpr ⟨hx.events, (hu e _).events⟩

theorem focus {split : σ → τ × ρ} {join : τ → ρ → σ} {x : Op τ α}
    (hx : x.Reports (split s).1 P) :
  (focus split join x).Reports s P
  := ⟨hx.events⟩

section Pairs

variable {s : κ × ω}

theorem onFirst {x : Op κ α} (hx : x.Reports s.1 P) :
  (onFirst x).Reports s P
  := ⟨hx.events⟩

/-- Requests to the stores report nothing. -/
theorem access {x : Access ω α} :
  (access x).Reports s P
  := by
  constructor
  intro e mem
  obtain ⟨k, w⟩ := s
  rw [Op.access, run_onSecond, run_ofAccess] at mem
  cases mem

theorem release [Backing ω] {device : Device} {frame : Nat} :
  (release device frame).Reports s P
  := ⟨fun _ mem => absurd mem List.not_mem_nil⟩

end Pairs

end Reports

end VirtualMemory.Op
