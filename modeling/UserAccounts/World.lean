import UserAccounts.Account.Service
import UserAccounts.Metrics.Registry
import UserAccounts.Random
import UserAccounts.Store.Memory

/-!
# Worlds with virtual time

A `World` answers every effect of a program from a state, so that whole runs of the service can be
computed: time passes only when something waits, the wall clock moves by a fixed step with every
reading, and identifiers are numbered. What the program reports and observes is kept in order.

The store behind the world is a `Backend`; `Backend.memory` is the store in memory.
-/

namespace UserAccounts

/-- What serving a call comes to. -/
structure Served (β : Type) (c : Call) where
  answer : c.Answer
  state : β
  /-- When the call was answered. -/
  finished : Instant
  /-- What was reported meanwhile. -/
  events : List Event

/-- A store as the world sees it: how it serves a call that is made at some time. -/
structure Backend (β : Type) where
  serve : β → Instant → (c : Call) → Served β c

/-- The store in memory. -/
def Backend.memory : Backend Memory where
  serve m now c :=
    let (answer, m, finished) := m.serve now c
    ⟨answer, m, finished, []⟩

/-- Numbered identifiers: a stem and a count from one, kept in 64 bits. -/
structure NumberedIds where
  stem : String
  drawn : Nat

/-- Draw the next identifier. -/
def NumberedIds.next (ids : NumberedIds) : Id × NumberedIds :=
  let number := (ids.drawn + 1) % (Text.maxUnsigned64 + 1)
  (⟨ids.stem ++ "-" ++ Text.natural number⟩, { ids with drawn := ids.drawn + 1 })

/-- A wall clock that moves by a step of milliseconds with every reading. -/
structure SteppedClock where
  start : Int
  step : Int
  readings : Nat

/-- The time that the next reading yields. -/
def SteppedClock.time (c : SteppedClock) : Timestamp :=
  (Timestamp.ofMillis? (c.start + c.readings * c.step)).getD .epoch

/-- A world with virtual time around a store. -/
structure World (β : Type) where
  now : Instant
  store : β
  clock : SteppedClock
  ids : NumberedIds
  random : Random
  registry : Registry
  /-- What was reported, in order. -/
  events : List Event
  /-- What was observed, in order, with the list that it was kept in. -/
  observations : List (Nat × Observation)

namespace World

variable {β : Type}

/-- A world at the beginning of its time. -/
def start (store : β) (clock : SteppedClock) (stem : String) : World β where
  now := ⟨0⟩
  store := store
  clock := clock
  ids := ⟨stem, 0⟩
  random := ⟨0⟩
  registry := .empty
  events := []
  observations := []

/-- Let time pass. -/
def advance (w : World β) (d : Span) : World β :=
  { w with now := w.now.after d }

/-- Keep an observation where its recorder says. -/
def keep (w : World β) (recorder : Recorder) (o : Observation) : World β :=
  match recorder with
  | .kept key => { w with observations := w.observations ++ [(key, o)] }
  | .discarding => w
  | .exported key =>
    match w.registry.connections[key]? with
    | some (_, instruments) => { w with registry := w.registry.record instruments o }
    | none => w

/-- Answer an effect. -/
def step (backend : Backend β) (w : World β) : (e : Effect) → e.Answer × World β
  | .store c =>
    let served := backend.serve w.store w.now c
    (served.answer, { w with
      store := served.state
      now := served.finished
      events := w.events ++ served.events })
  | .now => (w.now, w)
  | .wait deadline d =>
    let (finished, inTime) := deadline.await w.now (w.now.after d)
    (inTime, { w with now := finished })
  | .clock _ => (w.clock.time, { w with clock.readings := w.clock.readings + 1 })
  | .identifier =>
    let drawn := w.ids.next
    (drawn.1, { w with ids := drawn.2 })
  | .currentRequest => (none, w)
  | .freshRequest =>
    let drawn := RequestId.random w.random
    (drawn.1, { w with random := drawn.2 })
  | .report event => ((), { w with events := w.events ++ [event] })
  | .observe recorder o => ((), w.keep recorder o)

/-- An identifier for a request changes nothing but the source of random words. -/
theorem step_freshRequest (backend : Backend β) (w : World β) :
    ∃ drawn : RequestId × Random,
      w.step backend .freshRequest = (drawn.1, { w with random := drawn.2 }) := by
  refine ⟨RequestId.random w.random, ?_⟩
  unfold step
  exact rfl

/-- The world as a machine. -/
def machine (backend : Backend β) : Machine (World β) where
  step := World.step backend

end World

end UserAccounts
