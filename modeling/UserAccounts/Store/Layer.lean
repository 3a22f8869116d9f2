import UserAccounts.Program

/-!
# Stores and their layers

A `Store` is an identity together with the program that each call amounts to. `Store.direct` passes
every call on as it is. A `Layer` wraps a store: `Layer.metered` records how long each call took and
whether it failed, `Layer.logged` reports each call as an event. Neither changes a call or its
answer.

A layer needs no memory of its own: a statement knows its text and its transaction, so the label and
the scope of a call can be read off the call.
-/

namespace UserAccounts

/-- A store as its clients see it. -/
structure Store where
  database : String
  user : String
  call : (c : Call) → Program c.Answer

/-- Where the time of day comes from. -/
structure Clock where
  read : Zone → Program Timestamp

namespace Clock

/-- The wall clock itself. -/
def wall : Clock where
  read zone := .ask (.clock zone)

/-- A clock that reports every reading. -/
def logged (clock : Clock) : Clock where
  read zone := do
    let now ← clock.read zone
    .report (.timeRead zone now)
    pure now

/-- The universal time. -/
def universal (clock : Clock) : Program Timestamp :=
  clock.read .universal

end Clock

/-- A program together with the time that it takes. The wall clock is read before and after, and the
time taken is rounded to milliseconds. -/
def Program.timed {α : Type} (clock : Clock) (p : Program α) : Program (α × Timing) := do
  let start ← clock.universal
  let started ← Program.now
  let result ← p
  let finished ← Program.now
  let stop ← clock.universal
  pure (result, ⟨start, stop, (finished.since started).rounded⟩)

/-- The failure in an answer, if there is one. -/
def failure? {ε α : Type} : Except ε α → Option ε
  | .ok _ => none
  | .error e => some e

namespace Store

/-- A store whose calls are passed on as they are. -/
def direct (database user : String) : Store where
  database := database
  user := user
  call := Program.call

/-- Record the duration of a call under its label, and then its failure if it failed. -/
def measured (recorder : Recorder) (c : Call) (p : Program c.Answer) : Program c.Answer := do
  let started ← Program.now
  let answer ← p
  let finished ← Program.now
  Program.observe recorder (.duration c.label (finished.since started).rounded)
  match answer with
  | .ok _ => pure ()
  | .error _ => Program.observe recorder (.error c.label)
  pure answer

/-- A store whose calls are measured. Requests to roll back are counted before they are made. -/
def metered (recorder : Recorder) (store : Store) : Store where
  database := store.database
  user := store.user
  call c := do
    match c with
    | .rollback _ => Program.observe recorder .rollback
    | _ => pure ()
    measured recorder c (store.call c)

/-- The scope in which a call is reported: the path to what it is made on. -/
def scope (database user : String) : Call → LogScope
  | .prepare none _ _ | .begin .. => .root database user
  | .prepare (some _) _ _ | .commit _ | .rollback _ => (LogScope.root database user).named "tx"
  | .exec s _ _ | .queryRow s _ _ | .queryRows s _ _ | .close s =>
    match s.within with
    | none => (LogScope.root database user).named "stmt"
    | some _ => ((LogScope.root database user).named "tx").named "stmt"

/-- A store whose calls are reported: each by one event, and each failure by another. -/
def logged (clock : Clock) (store : Store) : Store where
  database := store.database
  user := store.user
  call c := do
    let (answer, timing) ← (store.call c).timed clock
    let entry : StoreReport := ⟨scope store.database store.user c, c, timing⟩
    Program.report (.storeCall entry (failure? answer))
    match answer with
    | .ok _ => pure ()
    | .error cause => Program.report (.storeCallFailed entry cause)
    pure answer

end Store

/-- What a store may be wrapped in. -/
inductive Layer where
  | metered (recorder : Recorder)
  | logged (clock : Clock)

namespace Layer

/-- Wrap a store. -/
def apply : Layer → Store → Store
  | .metered recorder, store => store.metered recorder
  | .logged clock, store => store.logged clock

/-- Wrap a store in layers, the innermost first. -/
def applyAll (layers : List Layer) (store : Store) : Store :=
  layers.foldl (fun wrapped layer => layer.apply wrapped) store

end Layer

namespace Store

/-! ## The calls by name -/

/-- Prepare a statement, within a transaction or outside of any. -/
def prepare (store : Store) (within : Option Transaction) (deadline : Deadline) (query : String) :
    Program (Except StoreError Statement) := do
  match ← store.call (.prepare within deadline query) with
  | .ok prepared => pure (.ok (prepared.statement within))
  | .error e => pure (.error e)

/-- Begin a transaction. -/
def begin (store : Store) (deadline : Deadline) (options : BeginOptions) :
    Program (Except StoreError Transaction) :=
  store.call (.begin deadline options)

/-- Run a statement for its effect. -/
def exec (store : Store) (statement : Statement) (deadline : Deadline) (args : List SqlValue) :
    Program (Except StoreError Nat) :=
  store.call (.exec statement deadline args)

/-- Run a statement for its first row. -/
def queryRow (store : Store) (statement : Statement) (deadline : Deadline) (args : List SqlValue) :
    Program (Except StoreError (Option Row)) :=
  store.call (.queryRow statement deadline args)

/-- Run a statement for its rows. -/
def queryRows (store : Store) (statement : Statement) (deadline : Deadline) (args : List SqlValue) :
    Program (Except StoreError (List Row)) :=
  store.call (.queryRows statement deadline args)

/-- Release a statement. -/
def close (store : Store) (statement : Statement) : Program (Except StoreError Unit) :=
  store.call (.close statement)

/-- Make the writes of a transaction permanent. -/
def commit (store : Store) (transaction : Transaction) : Program (Except StoreError Unit) :=
  store.call (.commit transaction)

/-- Give up the writes of a transaction. -/
def rollback (store : Store) (transaction : Transaction) : Program (Except StoreError Unit) :=
  store.call (.rollback transaction)

end Store

end UserAccounts
