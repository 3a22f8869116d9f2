import Mathlib
import UserAccounts.Metrics.Registry

/-!
# The instruments of connections

Where nothing but connections is registered, a registry holds three collectors for each connection,
one after the other and in the order in which the connections were first seen. What they hold is
what the observations of the connection amount to (`Registry.Holds`).

* `Holds.connect` — asking for the instruments of a connection succeeds and gives those at its
  place, whether it was seen before or not;
* `Holds.record` — an observation goes to one instrument of its connection and to no other.
-/

namespace UserAccounts

/-- The instruments that a connection has. -/
inductive Instrument where
  | errors
  | durations
  | rollbacks
  deriving DecidableEq

/-- The instrument that an observation is made with. -/
def Observation.instrument : Observation → Instrument
  | .duration _ _ => .durations
  | .error _ => .errors
  | .rollback => .rollbacks

namespace Instrument

/-- The instruments in the order of their registration. -/
def all : List Instrument := [.errors, .durations, .rollbacks]

/-- The place of an instrument among those of its connection. -/
def index : Instrument → Nat
  | .errors => 0
  | .durations => 1
  | .rollbacks => 2

/-- The collector that is registered for an instrument. -/
def collector (c : Connection) : Instrument → Collector
  | .errors => Registry.errorCounter c
  | .durations => Registry.durationHistogram c
  | .rollbacks => Registry.rollbackCounter c

/-- What an instrument makes of an observation; it ignores those of the other instruments. -/
def take : Instrument → Samples → Observation → Samples
  | .errors, s, .error label => s.increment [label]
  | .durations, s, .duration label elapsed => s.add [label] elapsed
  | .rollbacks, s, .rollback => s.increment []
  | _, s, _ => s

/-- The collector of an instrument after some observations of its connection. -/
def measured (c : Connection) (os : List Observation) (k : Instrument) : Collector :=
  { k.collector c with samples := os.foldl k.take (k.collector c).samples }

/-- The position of an instrument among the instruments of a connection. -/
def position (i : Instruments) : Instrument → Nat
  | .errors => i.errors
  | .durations => i.durations
  | .rollbacks => i.rollbacks

theorem mem_all (k : Instrument) : k ∈ all := by
  cases k <;> decide

theorem index_lt (k : Instrument) : k.index < 3 := by
  cases k <;> decide

theorem take_of_ne {k : Instrument} {o : Observation} (h : o.instrument ≠ k) (s : Samples) :
    k.take s o = s := by
  cases k <;> cases o <;> first | rfl | exact absurd rfl h

theorem measured_metric (c : Connection) (os : List Observation) (k : Instrument) :
    (k.measured c os).metric = (k.collector c).metric :=
  rfl

theorem measured_append (c : Connection) (os : List Observation) (o : Observation)
    (k : Instrument) :
    k.measured c (os ++ [o]) =
      { k.measured c os with samples := k.take (k.measured c os).samples o } := by
  simp [measured, List.foldl_append]

theorem measured_append_of_ne {k : Instrument} {o : Observation} (h : o.instrument ≠ k)
    (c : Connection) (os : List Observation) :
    k.measured c (os ++ [o]) = k.measured c os := by
  rw [measured_append, take_of_ne h]

/-- The name of the collector of an instrument. -/
def name : Instrument → String
  | .errors => "db_query_errors_total"
  | .durations => "db_query_duration_milliseconds"
  | .rollbacks => "db_tx_rollbacks_total"

theorem collector_name (c : Connection) (k : Instrument) :
    (k.collector c).metric.name = k.name := by
  cases k <;> rfl

theorem isValid_collector (c : Connection) (k : Instrument) :
    (k.collector c).metric.isValid = true := by
  -- Labels play no part in it, so that one connection stands for all.
  have hany : (k.collector c).metric.isValid = (k.collector ⟨"", ""⟩).metric.isValid := by
    unfold MetricName.isValid
    cases k <;> simp only [collector, Registry.errorCounter, Registry.durationHistogram,
      Registry.rollbackCounter]
  rw [hany]
  cases k <;> decide

theorem name_inj {k k' : Instrument} (h : k.name = k'.name) : k = k' := by
  cases k <;> cases k' <;> first | rfl | exact absurd h (by decide)

variable {c c' : Connection} {k k' : Instrument}

theorem eq_of_name_eq (h : (k.collector c).metric.name = (k'.collector c').metric.name) :
    k = k' := by
  rw [collector_name, collector_name] at h
  exact name_inj h

/-- Collectors of different connections or instruments are told apart. -/
theorem eq_of_identity_eq
    (h : (k.collector c).metric.identity = (k'.collector c').metric.identity) :
    k = k' ∧ c = c' := by
  obtain ⟨hname, hvalues⟩ := Prod.mk.inj h
  obtain rfl := eq_of_name_eq hname
  refine ⟨rfl, ?_⟩
  have hpair : c.database = c'.database ∧ c.user = c'.user := by
    cases k <;> simpa [collector, Registry.errorCounter, Registry.durationHistogram,
      Registry.rollbackCounter, Registry.connectionLabels] using hvalues
  cases c
  cases c'
  rw [Connection.mk.injEq]
  exact hpair

theorem dimensions_eq_of_name_eq
    (h : (k.collector c).metric.name = (k'.collector c').metric.name) :
    (k.collector c).metric.dimensions = (k'.collector c').metric.dimensions := by
  obtain rfl := eq_of_name_eq h
  cases k <;> rfl

end Instrument

/-- The instruments of the connection that was seen after `n` others. -/
def Instruments.nth (n : Nat) : Instruments := ⟨3 * n, 3 * n + 1, 3 * n + 2⟩

theorem Instrument.position_nth (n : Nat) (k : Instrument) :
    k.position (.nth n) = 3 * n + k.index := by
  cases k <;> rfl

/-- The collectors of connections, one connection after the other. -/
def laidOut (seen : List Connection) (g : Connection → Instrument → Collector) : List Collector :=
  seen.flatMap fun c => Instrument.all.map (g c)

section LaidOut

variable {seen : List Connection} {g g' : Connection → Instrument → Collector}

theorem laidOut_cons (c : Connection) :
    laidOut (c :: seen) g = g c .errors :: g c .durations :: g c .rollbacks :: laidOut seen g :=
  rfl

theorem laidOut_append (more : List Connection) :
    laidOut (seen ++ more) g = laidOut seen g ++ laidOut more g :=
  List.flatMap_append

theorem laidOut_congr (h : ∀ c ∈ seen, ∀ k, g' c k = g c k) : laidOut seen g' = laidOut seen g :=
  List.flatMap_congr fun c hc => List.map_congr_left fun k _ => h c hc k

theorem length_laidOut : (laidOut seen g).length = 3 * seen.length := by
  induction seen with
  | nil => rfl
  | cons c seen ih =>
    rw [laidOut_cons]
    simp only [List.length_cons, ih]
    omega

theorem mem_laidOut {collector : Collector} :
    collector ∈ laidOut seen g ↔ ∃ c ∈ seen, ∃ k, g c k = collector := by
  simp only [laidOut, List.mem_flatMap, List.mem_map, Instrument.mem_all, true_and]

/-- A change at the place of an instrument is a change of that instrument of that connection. -/
theorem laidOut_modify {c : Connection} {k : Instrument} {f : Collector → Collector}
    (hseen : seen.Nodup) (hc : c ∈ seen) (hself : g' c k = f (g c k))
    (hother : ∀ c' k', (c', k') ≠ (c, k) → g' c' k' = g c' k') :
    (laidOut seen g).modify (3 * seen.idxOf c + k.index) f = laidOut seen g' := by
  induction seen with
  | nil => cases hc
  | cons first seen ih =>
    obtain ⟨hfirst, hseen⟩ := List.nodup_cons.mp hseen
    rw [laidOut_cons, laidOut_cons]
    by_cases heq : first = c
    · subst heq
      have hrest : laidOut seen g' = laidOut seen g :=
        laidOut_congr fun c hc k => hother _ _ fun h => hfirst (by cases h; exact hc)
      have hkept (k' : Instrument) (hne : k' ≠ k) : g' first k' = g first k' :=
        hother _ _ fun h => hne (Prod.mk.inj h).2
      rw [hrest, List.idxOf_cons_self]
      cases k with
      | errors =>
        rw [hself, hkept .durations (by decide), hkept .rollbacks (by decide)]
        rfl
      | durations =>
        rw [hself, hkept .errors (by decide), hkept .rollbacks (by decide)]
        rfl
      | rollbacks =>
        rw [hself, hkept .errors (by decide), hkept .durations (by decide)]
        rfl
    · have hmem : c ∈ seen := (List.mem_cons.mp hc).resolve_left (Ne.symm heq)
      have hplace : 3 * (first :: seen).idxOf c + k.index =
          3 * seen.idxOf c + k.index + 1 + 1 + 1 := by
        rw [List.idxOf_cons_ne _ heq]
        omega
      have hkept (k' : Instrument) : g' first k' = g first k' :=
        hother _ _ fun h => heq (Prod.mk.inj h).1
      rw [hplace, List.modify_succ_cons, List.modify_succ_cons, List.modify_succ_cons,
        ih hseen hmem, hkept, hkept, hkept]

/-- At the place of an instrument of a connection stands its collector. -/
theorem laidOut_getElem? {c : Connection} (hc : c ∈ seen) (k : Instrument) :
    (laidOut seen g)[3 * seen.idxOf c + k.index]? = some (g c k) := by
  induction seen with
  | nil => cases hc
  | cons first seen ih =>
    rw [laidOut_cons]
    by_cases heq : first = c
    · subst heq
      rw [List.idxOf_cons_self]
      cases k <;> rfl
    · have hplace : 3 * (first :: seen).idxOf c + k.index =
          3 * seen.idxOf c + k.index + 1 + 1 + 1 := by
        rw [List.idxOf_cons_ne _ heq]
        omega
      rw [hplace, List.getElem?_cons_succ, List.getElem?_cons_succ, List.getElem?_cons_succ]
      exact ih ((List.mem_cons.mp hc).resolve_left (Ne.symm heq))

end LaidOut

namespace Registry

section Register

variable {r : Registry} {c : Collector}

/-- A collector is registered behind the others if no other one is like it. -/
theorem register_eq_ok (hvalid : c.metric.isValid = true)
    (hnew : ∀ other ∈ r.collectors, other.metric.identity ≠ c.metric.identity)
    (hlike : ∀ other ∈ r.collectors, other.metric.name = c.metric.name →
      other.metric.dimensions = c.metric.dimensions) :
    r.register c =
      (.ok r.collectors.length, { r with collectors := r.collectors ++ [c] }) := by
  have hknown : (r.collectors.any fun other =>
      other.metric.identity == c.metric.identity) = false := by
    simpa using hnew
  have hunlike : (r.collectors.any fun other =>
      other.metric.name == c.metric.name && other.metric.dimensions != c.metric.dimensions) =
        false := by
    simpa using hlike
  unfold register
  rw [hvalid, hknown, hunlike]
  rfl

end Register

/-- A collector of an instrument is registered behind collectors of others. -/
theorem register_collector {r : Registry} {c : Connection} {k : Instrument}
    (h : ∀ other ∈ r.collectors, ∃ c' k', other.metric = (k'.collector c').metric ∧
      (c', k') ≠ (c, k)) :
    r.register (k.collector c) =
      (.ok r.collectors.length, { r with collectors := r.collectors ++ [k.collector c] }) := by
  refine register_eq_ok (k.isValid_collector c) ?_ ?_
  · intro other hother heq
    obtain ⟨c', k', hmetric, hne⟩ := h other hother
    rw [hmetric] at heq
    obtain ⟨rfl, rfl⟩ := Instrument.eq_of_identity_eq heq
    exact hne rfl
  · intro other hother heq
    obtain ⟨c', k', hmetric, -⟩ := h other hother
    rw [hmetric] at heq ⊢
    exact Instrument.dimensions_eq_of_name_eq heq

/-- An observation is taken in by its own instrument. -/
theorem record_eq (r : Registry) (i : Instruments) (o : Observation) :
    r.record i o = r.modifySamples (o.instrument.position i) (o.instrument.take · o) := by
  cases o <;> rfl

/-- An observation changes no collector but that of its own instrument. -/
theorem record_getElem? {r : Registry} {i : Instruments} {o : Observation} {n : Nat}
    (h : n ≠ o.instrument.position i) : (r.record i o).collectors[n]? = r.collectors[n]? := by
  rw [record_eq]
  exact List.getElem?_modify_ne _ _ (Ne.symm h)

/-- A registry that has seen some connections holds what the observations of each amount to, and
knows the instruments of each. -/
structure Holds (r : Registry) (seen : List Connection)
    (log : Connection → List Observation) : Prop where
  nodup : seen.Nodup
  collectors_eq : r.collectors = laidOut seen fun c k => k.measured c (log c)
  connections_eq : r.connections = seen.zipIdx.map fun (c, n) => (c, .nth n)

theorem holds_empty (log : Connection → List Observation) : empty.Holds [] log :=
  ⟨.nil, rfl, rfl⟩

theorem lookup_zipIdx {seen : List Connection} {c : Connection} (n : Nat) :
    ((seen.zipIdx n).map fun (c, n) => (c, Instruments.nth n)).lookup c =
      if c ∈ seen then some (.nth (n + seen.idxOf c)) else none := by
  induction seen generalizing n with
  | nil => rfl
  | cons first seen ih =>
    rw [List.zipIdx_cons, List.map_cons, List.lookup_cons, ih]
    by_cases heq : c = first
    · subst heq
      simp
    · have hplace : n + 1 + seen.idxOf c = n + (first :: seen).idxOf c := by
        rw [List.idxOf_cons_ne _ (Ne.symm heq)]
        omega
      rw [hplace, beq_eq_false_iff_ne.mpr heq]
      simp [heq]

namespace Holds

variable {r : Registry} {seen : List Connection} {log : Connection → List Observation}
  (h : r.Holds seen log) {c : Connection}

include h

theorem connect_of_mem (hc : c ∈ seen) : r.connect c = (.ok (.nth (seen.idxOf c)), r) := by
  have hlookup : r.connections.lookup c = some (.nth (seen.idxOf c)) := by
    rw [h.connections_eq, lookup_zipIdx, if_pos hc, Nat.zero_add]
  unfold connect
  rw [hlookup]

/-- A connection that was not seen yet gets three collectors behind the others. -/
theorem connect_of_not_mem (hc : c ∉ seen) (hlog : log c = []) :
    ∃ r', r.connect c = (.ok (.nth seen.length), r') ∧ r'.Holds (seen ++ [c]) log := by
  have hlookup : r.connections.lookup c = none := by
    rw [h.connections_eq, lookup_zipIdx, if_neg hc]
  -- None of the collectors so far is of the new connection.
  have hothers (other : Collector) (hother : other ∈ r.collectors) (k : Instrument) :
      ∃ c' k', other.metric = (Instrument.collector c' k').metric ∧ (c', k') ≠ (c, k) := by
    rw [h.collectors_eq] at hother
    obtain ⟨c', hc', k', rfl⟩ := mem_laidOut.mp hother
    exact ⟨c', k', rfl, fun heq => hc ((Prod.mk.inj heq).1 ▸ hc')⟩
  set r₁ : Registry := { r with collectors := r.collectors ++ [errorCounter c] } with hr₁
  set r₂ : Registry := { r₁ with collectors := r₁.collectors ++ [durationHistogram c] } with hr₂
  set r₃ : Registry := { r₂ with collectors := r₂.collectors ++ [rollbackCounter c] } with hr₃
  have herrors : r.register (errorCounter c) = (.ok r.collectors.length, r₁) :=
    register_collector (k := .errors) fun other hother => hothers other hother _
  have hdurations : r₁.register (durationHistogram c) = (.ok r₁.collectors.length, r₂) := by
    refine register_collector (k := .durations) fun other hother => ?_
    rcases List.mem_append.mp hother with hother | hother
    · exact hothers other hother _
    · exact ⟨c, .errors, by rw [List.mem_singleton.mp hother]; rfl, nofun⟩
  have hrollbacks : r₂.register (rollbackCounter c) = (.ok r₂.collectors.length, r₃) := by
    refine register_collector (k := .rollbacks) fun other hother => ?_
    rcases List.mem_append.mp hother with hother | hother
    · rcases List.mem_append.mp hother with hother | hother
      · exact hothers other hother _
      · exact ⟨c, .errors, by rw [List.mem_singleton.mp hother]; rfl, nofun⟩
    · exact ⟨c, .durations, by rw [List.mem_singleton.mp hother]; rfl, nofun⟩
  have hplaces : (⟨r.collectors.length, r₁.collectors.length, r₂.collectors.length⟩ : Instruments) =
      .nth seen.length := by
    simp [hr₁, hr₂, h.collectors_eq, length_laidOut, Instruments.nth]
  refine ⟨{ r₃ with connections := r₃.connections ++ [(c, .nth seen.length)] }, ?_, ?_⟩
  · unfold connect
    rw [hlookup]
    simp only [herrors, hdurations, hrollbacks, hplaces]
  · constructor
    · exact List.nodup_append_comm.mp (List.nodup_cons.mpr ⟨hc, h.nodup⟩)
    · rw [laidOut_append, ← h.collectors_eq]
      show r.collectors ++ [errorCounter c] ++ [durationHistogram c] ++ [rollbackCounter c] =
        r.collectors ++ Instrument.all.map (Instrument.measured c (log c))
      rw [hlog, List.append_assoc, List.append_assoc]
      rfl
    · rw [List.zipIdx_append, List.map_append, ← h.connections_eq, Nat.zero_add]
      rfl

/-- An instrument of a connection holds what the observations of the connection amount to. -/
theorem collectors_getElem? (hc : c ∈ seen) (k : Instrument) :
    r.collectors[k.position (.nth (seen.idxOf c))]? = some (k.measured c (log c)) := by
  rw [h.collectors_eq, Instrument.position_nth, laidOut_getElem? hc]

/-- An observation with the instruments of a connection is one more of that connection. -/
theorem record (hc : c ∈ seen) {o : Observation} {log' : Connection → List Observation}
    (hself : log' c = log c ++ [o]) (hother : ∀ c', c' ≠ c → log' c' = log c') :
    (r.record (.nth (seen.idxOf c)) o).Holds seen log' := by
  rw [record_eq, Instrument.position_nth]
  refine ⟨h.nodup, ?_, h.connections_eq⟩
  unfold modifySamples
  rw [h.collectors_eq]
  refine laidOut_modify h.nodup hc ?_ ?_
  · rw [hself, Instrument.measured_append]
  · intro c' k' hne
    by_cases heq : c' = c
    · subst heq
      rw [hself, Instrument.measured_append_of_ne]
      rintro rfl
      exact hne rfl
    · rw [hother c' heq]

end Holds

end Registry

end UserAccounts
