import UserAccounts.Event

/-!
# Programs and machines

A `Program` is a tree of effects: each node asks the world for something and goes on with the
answer. It says what is asked for and in which order, and leaves open who answers. A `Machine`
answers effects, one after the other, from a state; `Program.run` puts the two together.

`run_bind` says that running one program after another is running their sequence.
-/

namespace UserAccounts

/-- Something measured about calls to the store. -/
inductive Observation where
  | duration (label : String) (elapsed : Span)
  | error (label : String)
  | rollback
  deriving DecidableEq

/-- Where observations go. -/
inductive Recorder where
  /-- A list of observations, by number. -/
  | kept (key : Nat)
  /-- Nowhere. -/
  | discarding
  /-- The exported instruments of a connection, by number. -/
  | exported (key : Nat)
  deriving DecidableEq

/-- Something that a program asks the world for. -/
inductive Effect where
  | store (call : Call)
  /-- The time of the monotonic clock. -/
  | now
  /-- Let a span pass, or as much of it as a deadline allows. -/
  | wait (deadline : Deadline) (d : Span)
  /-- The time of the wall clock. -/
  | clock (zone : Zone)
  /-- A new identifier for an entity. -/
  | identifier
  /-- The identifier of the request that is being served, if there is one. -/
  | currentRequest
  /-- A new identifier for a request. -/
  | freshRequest
  | report (event : Event)
  | observe (recorder : Recorder) (observation : Observation)

/-- What an effect yields. -/
abbrev Effect.Answer : Effect → Type
  | .store call => call.Answer
  | .now => Instant
  | .wait .. => Bool
  | .clock _ => Timestamp
  | .identifier => Id
  | .currentRequest => Option RequestId
  | .freshRequest => RequestId
  | .report _ | .observe _ _ => Unit

/-- A tree of effects with results at its leaves. -/
inductive Program (α : Type) : Type where
  | done (a : α)
  | perform (e : Effect) (next : e.Answer → Program α)

namespace Program

/-- Go on with the result of a program. -/
def bind {α β : Type} : Program α → (α → Program β) → Program β
  | .done a, f => f a
  | .perform e next, f => .perform e fun answer => (next answer).bind f

instance : Monad Program where
  pure := .done
  bind := bind

/-- The program of a single effect. -/
def ask (e : Effect) : Program e.Answer :=
  .perform e .done

/-- A call to the store. -/
def call (c : Call) : Program c.Answer := ask (.store c)

/-- The time of the monotonic clock. -/
def now : Program Instant := ask .now

/-- Let a span pass, or as much of it as a deadline allows; the result says whether it was all. -/
def wait (deadline : Deadline) (d : Span) : Program Bool := ask (.wait deadline d)

/-- Report an event. -/
def report (event : Event) : Program Unit := ask (.report event)

/-- Record an observation. -/
def observe (recorder : Recorder) (observation : Observation) : Program Unit :=
  ask (.observe recorder observation)

/-- The identifier of the request that is being served. -/
def currentRequest : Program (Option RequestId) := ask .currentRequest

/-- The program as part of serving a request. -/
def duringRequest {α : Type} (id : RequestId) : Program α → Program α
  | .done a => .done a
  | .perform .currentRequest next => (next (some id)).duringRequest id
  | .perform e next => .perform e fun answer => (next answer).duringRequest id

end Program

/-- Something that answers effects from a state. -/
structure Machine (σ : Type) where
  step : σ → (e : Effect) → e.Answer × σ

namespace Program

/-- Run a program on a machine from a state. -/
def run {σ α : Type} (m : Machine σ) : Program α → σ → α × σ
  | .done a, s => (a, s)
  | .perform e next, s =>
    let answered := m.step s e
    (next answered.1).run m answered.2

variable {σ α β : Type}

@[simp] theorem run_done (m : Machine σ) (a : α) (s : σ) : (done a).run m s = (a, s) := rfl

@[simp] theorem run_perform (m : Machine σ) (e : Effect) (next : e.Answer → Program α) (s : σ) :
    (perform e next).run m s = (next (m.step s e).1).run m (m.step s e).2 := rfl

@[simp] theorem done_bind (a : α) (f : α → Program β) : (done a).bind f = f a := rfl

@[simp] theorem perform_bind (e : Effect) (next : e.Answer → Program α) (f : α → Program β) :
    (perform e next).bind f = perform e fun answer => (next answer).bind f := rfl

@[simp] theorem pure_eq_done (a : α) : (pure a : Program α) = done a := rfl

@[simp] theorem bind_eq (p : Program α) (f : α → Program β) : (p >>= f) = p.bind f := rfl

theorem bind_done (p : Program α) : p.bind done = p := by
  induction p with
  | done a => rfl
  | perform e next ih => simp [ih]

theorem bind_assoc {γ : Type} (p : Program α) (f : α → Program β) (g : β → Program γ) :
    (p.bind f).bind g = p.bind fun a => (f a).bind g := by
  induction p with
  | done a => rfl
  | perform e next ih => simp [ih]

/-- Running one program after another is running their sequence. -/
theorem run_bind (m : Machine σ) (p : Program α) (f : α → Program β) (s : σ) :
    (p.bind f).run m s = (f (p.run m s).1).run m (p.run m s).2 := by
  induction p generalizing s with
  | done a => rfl
  | perform e next ih => simp [ih]

end Program

end UserAccounts
