import UserAccounts.Program

/-!
# Metrics

A `Registry` holds collectors of measurements: counters and histograms, each with a name, a help
text and labels. A collector is refused if one of the same name and the same constant labels is
there, or if one of the same name has another help text or other labels.

`Registry.connect` gives the instruments for a connection to a store, registering them when the
connection is first seen; `Registry.record` takes an observation in.
-/

namespace UserAccounts

/-- Why a collector is refused. -/
inductive RegisterError where
  /-- There is one of the same name with the same constant labels. -/
  | alreadyRegistered
  /-- There is one of the same name with another help text or other label names. -/
  | inconsistent
  /-- The name is no metric name, or the help text is empty. -/
  | invalid
  deriving DecidableEq

/-- What identifies a collector. The constant labels are sorted by name. -/
structure MetricName where
  name : String
  help : String
  constantLabels : List (String × String)
  variableLabels : List String
  deriving DecidableEq

namespace MetricName

/-- The constant label values, which together with the name must be unique. -/
def identity (d : MetricName) : String × List String :=
  (d.name, d.constantLabels.map (·.2))

/-- The help text and the label names, which all collectors of one name share. -/
def dimensions (d : MetricName) : String × List String × List String :=
  (d.help, d.constantLabels.map (·.1), d.variableLabels)

/-- Whether a character may occur in a metric name, the digits not at its beginning. -/
def isNameChar (first : Bool) (c : Char) : Bool :=
  c.isAlpha || c == '_' || c == ':' || (!first && c.isDigit)

/-- Whether the name is a metric name and there is a help text. -/
def isValid (d : MetricName) : Bool :=
  match d.name.toList with
  | [] => false
  | c :: rest => isNameChar true c && rest.all (isNameChar false) && !d.help.isEmpty

end MetricName

/-- The upper bounds of the buckets for durations, in milliseconds. -/
def durationBounds : List Nat := [1, 2, 5, 10, 25, 50, 100, 250, 500, 1000, 2500]

/-- Durations sorted into buckets. -/
structure Histogram where
  /-- The number of observations of at most each bound. -/
  buckets : List Nat
  count : Nat
  /-- The sum of the observations in milliseconds. -/
  sum : Float

namespace Histogram

/-- A histogram without observations. -/
def empty : Histogram := ⟨durationBounds.map fun _ => 0, 0, 0.0⟩

/-- A span in milliseconds. -/
def millis (d : Span) : Float :=
  (d.seconds.toUInt64.toFloat + d.subsecondNanos.toUInt64.toFloat / 1000000000.0) * 1000.0

/-- Take in an observation. -/
def add (h : Histogram) (d : Span) : Histogram where
  buckets := (durationBounds.zip h.buckets).map fun (bound, n) =>
    if d.nanos ≤ bound * Span.millisecond then n + 1 else n
  count := h.count + 1
  sum := h.sum + millis d

end Histogram

/-- What a collector has measured, by the values of its variable labels. -/
inductive Samples where
  | counters (values : List (List String × Nat))
  | histograms (values : List (List String × Histogram))

/-- A registered collector. -/
structure Collector where
  metric : MetricName
  samples : Samples

/-- Change the entry of a key, putting in one made from `fresh` if there is none. -/
def upsert {κ α : Type} [BEq κ] (key : κ) (fresh : α) (f : α → α) : List (κ × α) → List (κ × α)
  | [] => [(key, f fresh)]
  | (k, a) :: rest => if k == key then (k, f a) :: rest else (k, a) :: upsert key fresh f rest

namespace Samples

/-- Count one more under some label values. -/
def increment (labels : List String) : Samples → Samples
  | .counters values => .counters (upsert labels 0 (· + 1) values)
  | .histograms values => .histograms values

/-- Take in a duration under some label values. -/
def add (labels : List String) (d : Span) : Samples → Samples
  | .counters values => .counters values
  | .histograms values => .histograms (upsert labels .empty (·.add d) values)

end Samples

/-- The instruments of a connection, by the positions of their collectors. -/
structure Instruments where
  errors : Nat
  durations : Nat
  rollbacks : Nat
  deriving DecidableEq

/-- A connection to a store: the name of the database and of its user. -/
structure Connection where
  database : String
  user : String
  deriving DecidableEq

/-- The collectors, in the order of their registration, and the instruments of the connections seen
so far. -/
structure Registry where
  collectors : List Collector
  connections : List (Connection × Instruments)

namespace Registry

/-- A registry without collectors. -/
def empty : Registry := ⟨[], []⟩

/-- Register a collector; the result says at which position. -/
def register (r : Registry) (c : Collector) : Except RegisterError Nat × Registry :=
  if !c.metric.isValid then (.error .invalid, r)
  else if r.collectors.any fun other => other.metric.identity == c.metric.identity then
    (.error .alreadyRegistered, r)
  else if r.collectors.any fun other =>
      other.metric.name == c.metric.name && other.metric.dimensions != c.metric.dimensions then
    (.error .inconsistent, r)
  else (.ok r.collectors.length, { r with collectors := r.collectors ++ [c] })

/-- A counter without labels. -/
def plainCounter (name help : String) : Collector :=
  ⟨⟨name, help, [], []⟩, .counters [([], 0)]⟩

/-- The labels that all instruments of a connection carry. -/
def connectionLabels (c : Connection) : List (String × String) :=
  [("db_name", c.database), ("db_system", "postgresql"), ("db_user", c.user)]

/-- The counter of failed calls of a connection. -/
def errorCounter (c : Connection) : Collector :=
  ⟨⟨"db_query_errors_total", "Failed store calls by operation", connectionLabels c, ["operation"]⟩,
    .counters []⟩

/-- The durations of the calls of a connection. -/
def durationHistogram (c : Connection) : Collector :=
  ⟨⟨"db_query_duration_milliseconds", "Store call latency in milliseconds by operation",
    connectionLabels c, ["operation"]⟩, .histograms []⟩

/-- The counter of requested rollbacks of a connection. -/
def rollbackCounter (c : Connection) : Collector :=
  ⟨⟨"db_tx_rollbacks_total", "Transaction rollback requests", connectionLabels c, []⟩,
    .counters [([], 0)]⟩

/-- The instruments of a connection. They are registered one after the other when it is first asked
for; if one is refused, those before it stay registered. -/
def connect (r : Registry) (c : Connection) : Except RegisterError Instruments × Registry :=
  match r.connections.lookup c with
  | some instruments => (.ok instruments, r)
  | none =>
    match r.register (errorCounter c) with
    | (.error e, r) => (.error e, r)
    | (.ok errors, r) =>
      match r.register (durationHistogram c) with
      | (.error e, r) => (.error e, r)
      | (.ok durations, r) =>
        match r.register (rollbackCounter c) with
        | (.error e, r) => (.error e, r)
        | (.ok rollbacks, r) =>
          let instruments : Instruments := ⟨errors, durations, rollbacks⟩
          (.ok instruments, { r with connections := r.connections ++ [(c, instruments)] })

/-- Change the samples of the collector at a position. -/
def modifySamples (r : Registry) (position : Nat) (f : Samples → Samples) : Registry :=
  { r with collectors := r.collectors.modify position fun c => { c with samples := f c.samples } }

/-- Take in an observation made with some instruments. -/
def record (r : Registry) (i : Instruments) : Observation → Registry
  | .duration label elapsed => r.modifySamples i.durations (·.add [label] elapsed)
  | .error label => r.modifySamples i.errors (·.increment [label])
  | .rollback => r.modifySamples i.rollbacks (·.increment [])

end Registry

end UserAccounts
