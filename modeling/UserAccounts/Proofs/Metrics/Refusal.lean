import Mathlib
import UserAccounts.Proofs.Metrics.Exposition
import UserAccounts.Proofs.Metrics.Instruments

/-!
# What a refused connection leaves behind

The three instruments of a connection are registered one after the other, and nothing takes a
collector out again. When one of them is refused, those before it stay, although the registry has
not seen the connection.

* `Registry.connect_refused` — which collectors stay and what that changes. The exposition is the
  same; so is the outcome of every later registration whose collectors do not clash with those that
  stay. The connection itself is refused from then on, for another reason than the first time.
* `Registry.connect_refused_leaves` — a registry where this can be seen: a collector that would have
  been accepted is refused.
-/

namespace UserAccounts

/-- Collectors of these names are not registered in one registry. -/
def MetricName.Clashes (d other : MetricName) : Prop :=
  d.identity = other.identity ∨ (d.name = other.name ∧ d.dimensions ≠ other.dimensions)

/-- What a registry may be asked for. -/
inductive Registration where
  | collector (c : Collector)
  | connection (c : Connection)

/-- The collectors that are registered if all goes well. -/
def Registration.collectors : Registration → List Collector
  | .collector c => [c]
  | .connection c => Instrument.all.map (·.collector c)

/-- The instruments of a connection that are registered before one of them. -/
def Instrument.before (k : Instrument) : List Instrument := all.take k.index

theorem Instrument.mem_before {j k : Instrument} : j ∈ k.before ↔ j.index < k.index := by
  cases j <;> cases k <;> decide

theorem Instrument.eq_before {k : Instrument} {earlier later : List Instrument}
    (h : all = earlier ++ k :: later) : earlier = k.before := by
  have hnodup : (earlier ++ k :: later).Nodup := h ▸ (by decide : all.Nodup)
  have hnew : k ∉ earlier := fun hk =>
    (List.nodup_middle.mp hnodup).notMem (List.mem_append_left _ hk)
  have hlength : earlier.length = k.index :=
    calc earlier.length
        = (earlier ++ k :: later).idxOf k := by
          rw [List.idxOf_append_of_notMem hnew, List.idxOf_cons_self, Nat.add_zero]
      _ = k.index := by
          rw [← h]
          cases k <;> rfl
  rw [before, h, ← hlength, List.take_left]

namespace Registry

/-! ## Why a collector is refused -/

/-- Why a registry refuses a collector of this name, if it does. -/
def refusal? (r : Registry) (d : MetricName) : Option RegisterError :=
  if !d.isValid then some .invalid
  else if r.collectors.any fun other => other.metric.identity == d.identity then
    some .alreadyRegistered
  else if r.collectors.any fun other =>
      other.metric.name == d.name && other.metric.dimensions != d.dimensions then
    some .inconsistent
  else none

/-- A collector is put behind the others, or nothing changes. -/
theorem register_eq (r : Registry) (c : Collector) :
    r.register c = match r.refusal? c.metric with
      | some e => (.error e, r)
      | none => (.ok r.collectors.length, { r with collectors := r.collectors ++ [c] }) := by
  unfold register refusal?
  split_ifs <;> rfl

/-- The reason for which something was refused. -/
def refusalOf {α : Type} : Except RegisterError α → Option RegisterError
  | .error e => some e
  | .ok _ => none

/-- Ask for something; the result says why it is refused, if it is. -/
def attempt (r : Registry) : Registration → Option RegisterError × Registry
  | .collector c => (refusalOf (r.register c).1, (r.register c).2)
  | .connection c => (refusalOf (r.connect c).1, (r.connect c).2)

/-- The registry after it was asked for some things. -/
def after (r : Registry) : List Registration → Registry
  | [] => r
  | x :: xs => (r.attempt x).2.after xs

/-- What comes of asking for one thing after the other. -/
def outcomes (r : Registry) : List Registration → List (Option RegisterError)
  | [] => []
  | x :: xs => (r.attempt x).1 :: (r.attempt x).2.outcomes xs

/-- Register one collector after the other, up to the first that is refused. -/
def registerAll (r : Registry) : List Collector → Option RegisterError × Registry
  | [] => (none, r)
  | c :: cs =>
    match r.refusal? c.metric with
    | some e => (some e, r)
    | none => { r with collectors := r.collectors ++ [c] }.registerAll cs

/-- Registering several collectors changes nothing but what is behind the others, and stops at the
collector that is refused. -/
theorem registerAll_spec (r : Registry) (cs : List Collector) :
    ∃ accepted, (r.registerAll cs).2 = { r with collectors := r.collectors ++ accepted } ∧
      match (r.registerAll cs).1 with
      | none => accepted = cs
      | some e => ∃ c rest, cs = accepted ++ c :: rest ∧
        (r.registerAll cs).2.refusal? c.metric = some e := by
  induction cs generalizing r with
  | nil => exact ⟨[], by simp [registerAll], rfl⟩
  | cons c cs ih =>
    unfold registerAll
    cases hc : r.refusal? c.metric with
    | some e => exact ⟨[], by simp, c, cs, rfl, hc⟩
    | none =>
      obtain ⟨accepted, hafter, hend⟩ := ih { r with collectors := r.collectors ++ [c] }
      refine ⟨c :: accepted, by simp [hafter], ?_⟩
      dsimp only
      revert hend
      cases ({ r with collectors := r.collectors ++ [c] } : Registry).registerAll cs with
      | mk outcome r' =>
        cases outcome with
        | none => exact fun hall => congrArg (c :: ·) hall
        | some e =>
          rintro ⟨refused, rest, hcs, hrefused⟩
          exact ⟨refused, rest, by rw [hcs, List.cons_append], hrefused⟩

theorem connect_known {r : Registry} {c : Connection} {i : Instruments}
    (h : r.connections.lookup c = some i) : r.connect c = (.ok i, r) := by
  unfold connect
  rw [h]

/-- For a connection that was not seen, the three instruments are registered; the connection counts
as seen if all of them are accepted. -/
theorem connect_new {r : Registry} {c : Connection} (h : r.connections.lookup c = none) :
    ∃ i, r.connect c = match r.registerAll (Instrument.all.map (·.collector c)) with
      | (some e, r') => (.error e, r')
      | (none, r') => (.ok i, { r' with connections := r.connections ++ [(c, i)] }) := by
  unfold connect
  rw [h]
  simp only [register_eq, Instrument.all, Instrument.collector, List.map_cons, List.map_nil,
    registerAll]
  cases r.refusal? (errorCounter c).metric with
  | some e => exact ⟨⟨0, 0, 0⟩, rfl⟩
  | none =>
    dsimp only
    cases ({ r with collectors := r.collectors ++ [errorCounter c] } : Registry).refusal?
        (durationHistogram c).metric with
    | some e => exact ⟨⟨0, 0, 0⟩, rfl⟩
    | none =>
      dsimp only
      cases ({ r with collectors := r.collectors ++ [errorCounter c] ++ [durationHistogram c] } :
          Registry).refusal? (rollbackCounter c).metric with
      | some e => exact ⟨⟨0, 0, 0⟩, rfl⟩
      | none => exact ⟨_, rfl⟩

/-! ## Registries that differ in what was left behind -/

/-- The second registry has seen the same connections as the first, and besides collectors of the
names that the first one has, it has some of the names of `left`. -/
structure Beside (left : List Collector) (r r' : Registry) : Prop where
  collectors : ∀ p : MetricName → Bool, (r'.collectors.any fun c => p c.metric) =
    ((r.collectors.any fun c => p c.metric) || left.any fun c => p c.metric)
  connections : ∀ c, (r'.connections.lookup c).isSome = (r.connections.lookup c).isSome

theorem beside_append (r : Registry) (left : List Collector) :
    Beside left r { r with collectors := r.collectors ++ left } :=
  ⟨fun _ => List.any_append, fun _ => rfl⟩

namespace Beside

variable {left : List Collector} {r r' : Registry}

/-- The collectors that were left behind do not count for one that they do not clash with. -/
theorem refusal?_eq (h : Beside left r r') {d : MetricName}
    (hclear : ∀ a ∈ left, ¬ a.metric.Clashes d) : r'.refusal? d = r.refusal? d := by
  have hidentity : (left.any fun a => a.metric.identity == d.identity) = false := by
    rw [List.any_eq_false]
    intro a ha heq
    exact hclear a ha (.inl (beq_iff_eq.mp heq))
  have hdimensions : (left.any fun a =>
      a.metric.name == d.name && a.metric.dimensions != d.dimensions) = false := by
    rw [List.any_eq_false]
    intro a ha heq
    rw [Bool.and_eq_true, beq_iff_eq, bne_iff_ne] at heq
    exact hclear a ha (.inr heq)
  unfold refusal?
  rw [h.collectors (·.identity == d.identity), hidentity, Bool.or_false,
    h.collectors (fun other => other.name == d.name && other.dimensions != d.dimensions),
    hdimensions, Bool.or_false]

theorem append (h : Beside left r r') (c : Collector) :
    Beside left { r with collectors := r.collectors ++ [c] }
      { r' with collectors := r'.collectors ++ [c] } := by
  refine ⟨fun p => ?_, h.connections⟩
  show (r'.collectors ++ [c]).any _ = ((r.collectors ++ [c]).any _ || _)
  rw [List.any_append, List.any_append, h.collectors p, Bool.or_assoc, Bool.or_assoc,
    Bool.or_comm (left.any _)]

theorem registerAll (h : Beside left r r') {cs : List Collector}
    (hclear : ∀ a ∈ left, ∀ c ∈ cs, ¬ a.metric.Clashes c.metric) :
    (r'.registerAll cs).1 = (r.registerAll cs).1 ∧
      Beside left (r.registerAll cs).2 (r'.registerAll cs).2 := by
  induction cs generalizing r r' with
  | nil => exact ⟨rfl, h⟩
  | cons c cs ih =>
    have hrefusal := h.refusal?_eq fun a ha => hclear a ha c List.mem_cons_self
    unfold Registry.registerAll
    rw [hrefusal]
    cases r.refusal? c.metric with
    | some e => exact ⟨rfl, h⟩
    | none => exact ih (h.append c) fun a ha d hd => hclear a ha d (List.mem_cons_of_mem _ hd)

theorem attempt (h : Beside left r r') {x : Registration}
    (hclear : ∀ a ∈ left, ∀ c ∈ x.collectors, ¬ a.metric.Clashes c.metric) :
    (r'.attempt x).1 = (r.attempt x).1 ∧ Beside left (r.attempt x).2 (r'.attempt x).2 := by
  cases x with
  | collector c =>
    have hrefusal := h.refusal?_eq fun a ha => hclear a ha c List.mem_cons_self
    simp only [Registry.attempt, register_eq, hrefusal]
    cases r.refusal? c.metric with
    | some e => exact ⟨rfl, h⟩
    | none => exact ⟨rfl, h.append c⟩
  | connection c =>
    have hseen := h.connections c
    cases hr : r.connections.lookup c with
    | some i =>
      rw [hr, Option.isSome_some, Option.isSome_iff_exists] at hseen
      obtain ⟨i', hr'⟩ := hseen
      simp only [Registry.attempt, connect_known hr, connect_known hr']
      exact ⟨rfl, h⟩
    | none =>
      rw [hr, Option.isSome_none, Option.isSome_eq_false_iff, Option.isNone_iff_eq_none] at hseen
      obtain ⟨i, hi⟩ := connect_new hr
      obtain ⟨i', hi'⟩ := connect_new hseen
      obtain ⟨houtcome, hafter⟩ := h.registerAll hclear
      simp only [Registry.attempt, hi, hi']
      revert houtcome hafter
      simp only [Registration.collectors]
      cases r.registerAll (Instrument.all.map (·.collector c)) with
      | mk outcome s =>
        cases r'.registerAll (Instrument.all.map (·.collector c)) with
        | mk outcome' s' =>
          rintro rfl hafter
          cases outcome' with
          | some e => exact ⟨rfl, hafter⟩
          | none =>
            refine ⟨rfl, hafter.collectors, fun c' => ?_⟩
            simp only [List.lookup_append, Option.isSome_or, h.connections c']
            congr 1
            simp only [List.lookup_cons, List.lookup_nil]
            split <;> rfl

/-- Registrations that do not clash with what was left behind do not notice it. -/
theorem outcomes_eq (h : Beside left r r') {later : List Registration}
    (hclear : ∀ a ∈ left, ∀ x ∈ later, ∀ c ∈ x.collectors, ¬ a.metric.Clashes c.metric) :
    r'.outcomes later = r.outcomes later := by
  induction later generalizing r r' with
  | nil => rfl
  | cons x later ih =>
    obtain ⟨houtcome, hafter⟩ := h.attempt fun a ha => hclear a ha x List.mem_cons_self
    unfold outcomes
    rw [houtcome, ih hafter fun a ha y hy => hclear a ha y (List.mem_cons_of_mem _ hy)]

end Beside

/-! ## A connection that can never be had -/

/-- A connection that was not seen, and whose counter of errors cannot be registered. -/
structure Barred (r : Registry) (c : Connection) : Prop where
  unseen : r.connections.lookup c = none
  taken : ∃ other ∈ r.collectors, other.metric.identity = (errorCounter c).metric.identity

namespace Barred

variable {r : Registry} {c : Connection} (h : r.Barred c)

include h

theorem refusal?_eq : r.refusal? (errorCounter c).metric = some .alreadyRegistered := by
  obtain ⟨other, hother, hidentity⟩ := h.taken
  have htaken : (r.collectors.any fun other =>
      other.metric.identity == (errorCounter c).metric.identity) = true :=
    List.any_eq_true.mpr ⟨other, hother, beq_iff_eq.mpr hidentity⟩
  have hvalid : (errorCounter c).metric.isValid = true := Instrument.errors.isValid_collector c
  unfold refusal?
  rw [hvalid, htaken]
  rfl

theorem connect : r.connect c = (.error .alreadyRegistered, r) := by
  have hfirst : r.registerAll (Instrument.all.map (·.collector c)) =
      (some .alreadyRegistered, r) := by
    show r.registerAll (errorCounter c :: _) = _
    unfold registerAll
    rw [h.refusal?_eq]
  obtain ⟨i, hi⟩ := connect_new h.unseen
  rw [hi, hfirst]

/-- Whatever is registered, the connection stays barred. -/
theorem attempt (x : Registration) : (r.attempt x).2.Barred c := by
  obtain ⟨other, hother, hidentity⟩ := h.taken
  cases x with
  | collector d =>
    simp only [Registry.attempt, register_eq]
    cases r.refusal? d.metric with
    | some e => exact h
    | none => exact ⟨h.unseen, other, List.mem_append_left _ hother, hidentity⟩
  | connection c' =>
    show (r.connect c').2.Barred c
    by_cases heq : c' = c
    · rw [heq, h.connect]
      exact h
    · cases hr : r.connections.lookup c' with
      | some i =>
        rw [connect_known hr]
        exact h
      | none =>
        obtain ⟨i, hi⟩ := connect_new hr
        obtain ⟨accepted, hafter, -⟩ := r.registerAll_spec (Instrument.all.map (·.collector c'))
        rw [hi]
        revert hafter
        cases r.registerAll (Instrument.all.map (·.collector c')) with
        | mk outcome r' =>
          rintro rfl
          have hstays : ∃ other ∈ r.collectors ++ accepted,
              other.metric.identity = (errorCounter c).metric.identity :=
            ⟨other, List.mem_append_left _ hother, hidentity⟩
          cases outcome with
          | some e => exact ⟨h.unseen, hstays⟩
          | none =>
            refine ⟨?_, hstays⟩
            show (r.connections ++ [(c', i)]).lookup c = none
            have hne : (c == c') = false := beq_eq_false_iff_ne.mpr (Ne.symm heq)
            rw [List.lookup_append, h.unseen, List.lookup_cons, hne]
            rfl

theorem after (later : List Registration) : (r.after later).Barred c := by
  induction later generalizing r with
  | nil => exact h
  | cons x later ih => exact ih (h.attempt x)

end Barred

end Registry

/-! ## Collectors without samples do not show -/

namespace Exposition

/-- Collectors behind the others do not show as long as they have no samples. -/
theorem familyLines_append {collectors left : List Collector}
    (h : ∀ c ∈ left, collectorSamples c = []) :
    familyLines (collectors ++ left) = familyLines collectors := by
  have hnone : left.flatMap collectorSamples = [] := List.flatMap_eq_nil_iff.mpr h
  cases collectors with
  | nil =>
    cases left with
    | nil => rfl
    | cons first rest =>
      show familyLines (first :: rest) = []
      unfold familyLines
      simp only [hnone, List.isEmpty_nil, if_true]
  | cons first rest =>
    have hsamples : (first :: (rest ++ left)).flatMap collectorSamples =
        (first :: rest).flatMap collectorSamples := by
      rw [← List.cons_append, List.flatMap_append, hnone, List.append_nil]
    simp only [familyLines, List.cons_append, hsamples]

/-- What contributes nothing can be left out. -/
theorem flatMap_eq_flatMap_filter {α β : Type} {f : α → List β} {p : α → Bool} {xs : List α}
    (h : ∀ x ∈ xs, p x = false → f x = []) : xs.flatMap f = (xs.filter p).flatMap f := by
  induction xs with
  | nil => rfl
  | cons x xs ih =>
    obtain ⟨hx, hxs⟩ := List.forall_mem_cons.mp h
    rw [List.flatMap_cons, ih hxs]
    cases hp : p x with
    | true => rw [List.filter_cons_of_pos hp, List.flatMap_cons]
    | false => rw [List.filter_cons_of_neg (by rw [hp]; nofun), hx hp, List.nil_append]

theorem exposition_append {r : Registry} {left : List Collector}
    (h : ∀ c ∈ left, collectorSamples c = []) :
    ({ r with collectors := r.collectors ++ left } : Registry).exposition = r.exposition := by
  set r' : Registry := { r with collectors := r.collectors ++ left }
  obtain ⟨hsorted, hnames⟩ := familyNames_spec r
  obtain ⟨hsorted', hnames'⟩ := familyNames_spec r'
  have hfamily (name : String) :
      familyLines (r'.collectors.filter fun c => c.metric.name == name) =
        familyLines (r.collectors.filter fun c => c.metric.name == name) := by
    rw [List.filter_append]
    exact familyLines_append fun c hc => h c (List.mem_of_mem_filter hc)
  -- The new names are names of families without lines; the others come in the same order.
  have hkept : r'.familyNames.filter (· ∈ r.familyNames) = r.familyNames := by
    refine List.Perm.eq_of_pairwise (fun a b _ _ hab hba => absurd hab (lt_asymm hba))
      (hsorted'.filter _) hsorted ?_
    rw [List.perm_ext_iff_of_nodup ((hsorted'.filter _).imp fun h => ne_of_lt h)
      (hsorted.imp fun h => ne_of_lt h)]
    intro name
    rw [List.mem_filter, decide_eq_true_iff, and_iff_right_iff_imp]
    intro hname
    obtain ⟨c, hc, hcname⟩ := (hnames name).mp hname
    exact (hnames' name).mpr ⟨c, List.mem_append_left _ hc, hcname⟩
  have hempty (name : String) (hname : name ∉ r.familyNames) :
      (r.collectors.filter fun c => c.metric.name == name) = [] := by
    rw [List.filter_eq_nil_iff]
    intro c hc hcname
    exact hname ((hnames name).mpr ⟨c, hc, beq_iff_eq.mp hcname⟩)
  calc r'.exposition
      = r'.familyNames.flatMap fun name =>
          familyLines (r.collectors.filter fun c => c.metric.name == name) :=
        List.flatMap_congr fun name _ => hfamily name
    _ = (r'.familyNames.filter (· ∈ r.familyNames)).flatMap fun name =>
          familyLines (r.collectors.filter fun c => c.metric.name == name) := by
        refine flatMap_eq_flatMap_filter fun name _ hname => ?_
        rw [hempty name (of_decide_eq_false hname)]
        rfl
    _ = r.exposition := by rw [hkept]; rfl

/-- The instruments that are registered before another one have no samples yet. -/
theorem collectorSamples_of_mem_before {j k : Instrument} (h : j ∈ k.before) (c : Connection) :
    collectorSamples (j.collector c) = [] := by
  cases j with
  | errors => rfl
  | durations => rfl
  | rollbacks =>
    have hindex : 2 < k.index := Instrument.mem_before.mp h
    have hlast := k.index_lt
    omega

end Exposition

/-! ## The refused connection -/

namespace Registry

/-- A refused connection leaves the instruments before the refused one, and is not seen. -/
theorem connect_refused_keeps {r r' : Registry} {c : Connection} {e : RegisterError}
    (h : r.connect c = (.error e, r')) :
    r.connections.lookup c = none ∧ ∃ k : Instrument,
      r' = { r with collectors := r.collectors ++ k.before.map (·.collector c) } ∧
      r'.refusal? (k.collector c).metric = some e := by
  cases hseen : r.connections.lookup c with
  | some i =>
    rw [connect_known hseen] at h
    cases h
  | none =>
    refine ⟨rfl, ?_⟩
    obtain ⟨i, hi⟩ := connect_new hseen
    obtain ⟨accepted, hafter, hend⟩ := r.registerAll_spec (Instrument.all.map (·.collector c))
    rw [hi] at h
    revert h hafter hend
    cases r.registerAll (Instrument.all.map (·.collector c)) with
    | mk outcome s =>
      cases outcome with
      | none => intro h; cases h
      | some refusal =>
        rintro h hafter ⟨refused, rest, hsplit, hrefused⟩
        cases h
        -- The refused collector is one of the three, at its place.
        obtain ⟨earlier, middle, hall, haccepted, hmiddle⟩ := List.map_eq_append_iff.mp hsplit
        obtain ⟨k, later, rfl, rfl, -⟩ := List.map_eq_cons_iff.mp hmiddle
        rw [Instrument.eq_before hall] at haccepted
        exact ⟨k, by rw [haccepted]; exact hafter, hrefused⟩

/-- Of a connection that is refused, the instruments before the refused one stay. Nothing of it
shows, and a later registration notices it only if one of its collectors clashes with one that
stayed. If any stayed, the connection is refused for ever after, as if it were there. -/
theorem connect_refused {r r' : Registry} {c : Connection} {e : RegisterError}
    (h : r.connect c = (.error e, r')) :
    ∃ k : Instrument,
      r' = { r with collectors := r.collectors ++ k.before.map (·.collector c) } ∧
      r'.register (k.collector c) = (.error e, r') ∧
      r'.exposition = r.exposition ∧
      (∀ later : List Registration,
        (∀ j ∈ k.before, ∀ x ∈ later, ∀ d ∈ x.collectors,
          ¬ (j.collector c).metric.Clashes d.metric) →
        r'.outcomes later = r.outcomes later) ∧
      (k.before ≠ [] → ∀ later, ((r'.after later).connect c).1 = .error .alreadyRegistered) := by
  obtain ⟨hunseen, k, rfl, hrefused⟩ := connect_refused_keeps h
  refine ⟨k, rfl, ?_, ?_, ?_, ?_⟩
  · rw [register_eq, hrefused]
  · refine Exposition.exposition_append fun collector hcollector => ?_
    obtain ⟨j, hj, rfl⟩ := List.mem_map.mp hcollector
    exact Exposition.collectorSamples_of_mem_before hj c
  · intro later hclear
    refine (r.beside_append _).outcomes_eq fun collector hcollector => ?_
    obtain ⟨j, hj, rfl⟩ := List.mem_map.mp hcollector
    exact hclear j hj
  · intro hstayed later
    -- The counter of errors is registered first.
    have herrors : Instrument.errors ∈ k.before := by
      revert hstayed
      cases k <;> decide
    have hbarred : Barred { r with collectors := r.collectors ++ k.before.map (·.collector c) } c :=
      ⟨hunseen, errorCounter c,
        List.mem_append_right _ (List.mem_map.mpr ⟨.errors, herrors, rfl⟩), rfl⟩
    rw [(hbarred.after later).connect]

/-- A registry with a collector of the name of the third instrument of a connection. -/
def occupied : Registry :=
  empty.after [.collector (plainCounter "db_tx_rollbacks_total" "other help")]

theorem connect_occupied :
    (occupied.connect ⟨"accounts", "svc"⟩).1 = .error .inconsistent ∧
    (occupied.connect ⟨"accounts", "svc"⟩).2.exposition = occupied.exposition ∧
    ∀ later, (((occupied.connect ⟨"accounts", "svc"⟩).2.after later).connect
      ⟨"accounts", "svc"⟩).1 = .error .alreadyRegistered := by
  have hrefused : occupied.connect ⟨"accounts", "svc"⟩ =
      (.error .inconsistent, (occupied.connect ⟨"accounts", "svc"⟩).2) := by
    rfl
  obtain ⟨k, hafter, -, hexposition, -, hbarred⟩ := connect_refused hrefused
  refine ⟨by rw [hrefused], hexposition, hbarred fun hnone => ?_⟩
  rw [hnone] at hafter
  have hlength := congrArg (·.collectors.length) hafter
  exact absurd hlength (by decide)

/-- Had the connection not been asked for, it would be refused again for the same reason, and the
counter after it would be accepted. -/
theorem connect_refused_leaves :
    (occupied.connect ⟨"accounts", "svc"⟩).1 = .error .inconsistent ∧
    (occupied.connect ⟨"accounts", "svc"⟩).2.collectors.length ≠ occupied.collectors.length ∧
    (occupied.connect ⟨"accounts", "svc"⟩).2.outcomes [.connection ⟨"accounts", "svc"⟩] ≠
      occupied.outcomes [.connection ⟨"accounts", "svc"⟩] ∧
    (occupied.connect ⟨"accounts", "svc"⟩).2.outcomes
        [.collector (plainCounter "db_query_errors_total" "mine")] ≠
      occupied.outcomes [.collector (plainCounter "db_query_errors_total" "mine")] := by
  decide

end Registry

end UserAccounts
