import VirtualMemory.Event

/-!
# Operations

An operation on states of type `σ` answers with a value or an error, leaves a state behind in
both cases, and reports events in the order in which they happen.  A failure ends the operation
but takes back nothing: the state is the one reached so far.  `attempt` turns a failure into a
value, `onFailure` runs a clean-up after one, and `focus` runs an operation on a part of a
larger state.
-/

namespace VirtualMemory

/-- What an operation leaves behind. -/
structure Outcome (σ α : Type) where
  /-- The value, or the reason why there is none. -/
  answer : Except Error α
  /-- The state afterwards. -/
  state : σ
  /-- The events reported on the way, first to last. -/
  events : List Event

/-- An operation that answers with an `α` on a state of type `σ`. -/
def Op (σ α : Type) : Type := σ → Outcome σ α

namespace Op

variable {σ τ ρ κ ω α β : Type}

/-- The operation that answers at once. -/
protected def pure (a : α) : Op σ α := fun s => ⟨.ok a, s, []⟩

/-- One operation after another; the second does not run if the first fails. -/
protected def bind (x : Op σ α) (f : α → Op σ β) : Op σ β := fun s =>
  match x s with
  | ⟨.ok a, s, before⟩ =>
    let r := f a s
    ⟨r.answer, r.state, before ++ r.events⟩
  | ⟨.error e, s, before⟩ => ⟨.error e, s, before⟩

instance : Monad (Op σ) where
  pure := Op.pure
  bind := Op.bind

/-- The operation that fails. -/
def fail (e : Error) : Op σ α := fun s => ⟨.error e, s, []⟩

/-- The operation that answers with a given result. -/
def ofExcept : Except Error α → Op σ α
  | .ok a => Op.pure a
  | .error e => fail e

/-- The state, seen through `f`. -/
def gets (f : σ → α) : Op σ α := fun s => ⟨.ok (f s), s, []⟩

/-- Changes the state. -/
def modify (f : σ → σ) : Op σ Unit := fun s => ⟨.ok (), f s, []⟩

/-- Reports an event. -/
def emit (e : Event) : Op σ Unit := fun s => ⟨.ok (), s, [e]⟩

/-- Answers with the success or the failure of an operation, and does not fail itself. -/
def attempt (x : Op σ α) : Op σ (Except Error α) := fun s =>
  let r := x s
  ⟨.ok r.answer, r.state, r.events⟩

/-- Fails with another error where `x` fails. -/
def mapError (f : Error → Error) (x : Op σ α) : Op σ α := fun s =>
  let r := x s
  ⟨r.answer.mapError f, r.state, r.events⟩

/-- Runs `undo` if `x` fails, and then fails with the error of `x`. -/
def onFailure (x : Op σ α) (undo : Error → Op σ Unit) : Op σ α := fun s =>
  match x s with
  | ⟨.ok a, s, before⟩ => ⟨.ok a, s, before⟩
  | ⟨.error e, s, before⟩ =>
    let r := undo e s
    ⟨.error e, r.state, before ++ r.events⟩

/-- Runs an operation on a part of the state: `split` takes the part out and `join` puts it
back to the rest. -/
def focus (split : σ → τ × ρ) (join : τ → ρ → σ) (x : Op τ α) : Op σ α := fun s =>
  match split s with
  | (part, rest) =>
    match x part with
    | ⟨answer, part, events⟩ => ⟨answer, join part rest, events⟩

/-- Runs an operation on the first component of the state. -/
def onFirst (x : Op κ α) : Op (κ × ω) α := fun s =>
  match s with
  | (k, w) =>
    match x k with
    | ⟨answer, k, events⟩ => ⟨answer, (k, w), events⟩

/-- Runs an operation on the second component of the state. -/
def onSecond (x : Op ω α) : Op (κ × ω) α := fun s =>
  match s with
  | (k, w) =>
    match x w with
    | ⟨answer, w, events⟩ => ⟨answer, (k, w), events⟩

/-! ### How each operation runs -/

variable {s : σ}

theorem run_bind {x : Op σ α} {f : α → Op σ β} :
  (x >>= f) s =
    match x s with
    | ⟨.ok a, s, before⟩ => ⟨(f a s).answer, (f a s).state, before ++ (f a s).events⟩
    | ⟨.error e, s, before⟩ => ⟨.error e, s, before⟩
  := rfl

@[simp]
theorem run_ofExcept {r : Except Error α} :
  (ofExcept r : Op σ α) s = ⟨r, s, []⟩
  := by
  cases r with
  | ok a => rfl
  | error e => rfl

@[simp]
theorem run_pure {a : α} :
  (pure a : Op σ α) s = ⟨.ok a, s, []⟩
  := rfl

@[simp]
theorem run_gets {f : σ → α} :
  gets f s = ⟨.ok (f s), s, []⟩
  := rfl

@[simp]
theorem run_modify {f : σ → σ} :
  modify f s = ⟨.ok (), f s, []⟩
  := rfl

@[simp]
theorem run_mapError {f : Error → Error} {x : Op σ α} :
  mapError f x s = ⟨(x s).answer.mapError f, (x s).state, (x s).events⟩
  := rfl

@[simp]
theorem run_onSecond {x : Op ω α} {k : κ} {w : ω} :
  onSecond x (k, w) = ⟨(x w).answer, (k, (x w).state), (x w).events⟩
  := rfl

/-- No clean-up runs after a success. -/
theorem run_onFailure_of_ok {x : Op σ α} {undo : Error → Op σ Unit} {a : α}
    (h : (x s).answer = .ok a) :
  onFailure x undo s = x s
  := by
  unfold onFailure
  rcases run : x s with ⟨answer, state, events⟩
  rw [run] at h
  obtain rfl : answer = .ok a := h
  rfl

/-- The clean-up starts from the state that the failure left, and cannot hide the failure. -/
theorem run_onFailure_of_error {x : Op σ α} {undo : Error → Op σ Unit} {e : Error}
    (h : (x s).answer = .error e) :
  onFailure x undo s =
    ⟨.error e, (undo e (x s).state).state, (x s).events ++ (undo e (x s).state).events⟩
  := by
  unfold onFailure
  rcases run : x s with ⟨answer, state, events⟩
  rw [run] at h
  obtain rfl : answer = .error e := h
  rfl

/-- After a success the next operation starts from the state reached. -/
theorem run_bind_of_ok {x : Op σ α} {f : α → Op σ β} {a : α} (h : (x s).answer = .ok a) :
  (x >>= f) s =
    ⟨(f a (x s).state).answer, (f a (x s).state).state,
      (x s).events ++ (f a (x s).state).events⟩
  := by
  rw [run_bind]
  rcases run : x s with ⟨answer, state, events⟩
  rw [run] at h
  obtain rfl : answer = .ok a := h
  rfl

/-- A failure ends the operation where it is. -/
theorem run_bind_of_error {x : Op σ α} {f : α → Op σ β} {e : Error}
    (h : (x s).answer = .error e) :
  (x >>= f) s = ⟨.error e, (x s).state, (x s).events⟩
  := by
  rw [run_bind]
  rcases run : x s with ⟨answer, state, events⟩
  rw [run] at h
  obtain rfl : answer = .error e := h
  rfl

/-- Answering with what an operation answered changes nothing. -/
theorem bind_pure (x : Op σ α) :
  Op.bind x Op.pure = x
  := by
  funext s
  unfold Op.bind Op.pure
  rcases x s with ⟨answer, state, events⟩
  cases answer with
  | ok a =>
    dsimp only
    rw [List.append_nil]
  | error e => rfl

/-- It does not matter how a sequence of operations is grouped. -/
theorem bind_assoc (x : Op σ α) (f : α → Op σ β) (g : β → Op σ κ) :
  Op.bind (Op.bind x f) g = Op.bind x fun a => Op.bind (f a) g
  := by
  funext s
  unfold Op.bind
  rcases x s with ⟨answer, state, events⟩
  cases answer with
  | error e => rfl
  | ok a =>
    dsimp only
    rcases f a state with ⟨answer', state', events'⟩
    cases answer' with
    | error e => rfl
    | ok b =>
      dsimp only
      rw [List.append_assoc]

instance : LawfulMonad (Op σ) := LawfulMonad.mk' (Op σ) bind_pure (fun _ _ => rfl) bind_assoc

end Op

end VirtualMemory
