import UserAccounts.Proofs.Store.Visits

/-!
# What a metered store records

A metered store within any stack of layers records about every call that is made through it, in this
order: that it is a rollback, if it is one; how long it took; and that it failed, if it did. Nothing
else is recorded with its recorder, and everything before the call is answered
(`Client.observed_metered`). So durations count calls, errors count the calls that failed, label by
label, and rollbacks count the requests to roll back, whatever came of them.

The recorder has to be the layer's own: `Layer.Spares` says of the others that they leave it alone.
-/

namespace UserAccounts

/-! ## Recorders -/

/-- The observation that was recorded with a recorder, if one was. -/
def Answered.observation? (recorder : Recorder) : Answered → Option Observation
  | ⟨.observe r o, _⟩ => if r = recorder then some o else none
  | _ => none

/-- The observations that were recorded with a recorder, in order. -/
def Recorder.observed (recorder : Recorder) (trace : List Answered) : List Observation :=
  trace.filterMap (Answered.observation? recorder)

/-- An effect that leaves a recorder alone. -/
def Effect.Spares (recorder : Recorder) (e : Effect) : Prop := ∀ o, e ≠ .observe recorder o

/-- A layer that neither calls the store on its own account nor uses a recorder. -/
def Layer.Spares (recorder : Recorder) (layer : Layer) : Prop :=
  layer.Asides fun e => e.isCall = false ∧ e.Spares recorder

theorem Effect.Spares.observation?_eq {recorder : Recorder} {e : Effect} (h : e.Spares recorder)
    (answer : e.Answer) : Answered.observation? recorder ⟨e, answer⟩ = none := by
  cases e with
  | observe r o =>
    have hne : r ≠ recorder := by
      intro heq
      exact h o (by rw [heq])
    show (if r = recorder then some o else none) = none
    rw [if_neg hne]
  | _ => rfl

theorem Layer.Spares.quiet {recorder : Recorder} {layer : Layer} (h : layer.Spares recorder) :
    layer.Quiet :=
  h.mono fun _ he => he.1

theorem Layer.metered_spares {recorder other : Recorder} (h : other ≠ recorder) :
    (Layer.metered other).Spares recorder := by
  refine ⟨⟨rfl, nofun⟩, fun o => ⟨rfl, ?_⟩⟩
  intro o' heq
  cases heq
  exact h rfl

theorem Layer.logged_wall_spares (recorder : Recorder) : (Layer.logged .wall).Spares recorder :=
  ⟨⟨rfl, nofun⟩, fun _ => ⟨rfl, nofun⟩, fun _ => ⟨⟨rfl, nofun⟩, fun _ => trivial⟩⟩

/-- A store that leaves a recorder alone. -/
def Store.Spares (recorder : Recorder) (store : Store) : Prop :=
  ∀ c, (store.call c).Only (Effect.Spares recorder)

theorem Layer.applyAll_direct_spares {recorder : Recorder} {layers : List Layer}
    (hl : ∀ layer ∈ layers, layer.Spares recorder) (database user : String) :
    (applyAll layers (.direct database user)).Spares recorder := by
  intro c
  have hcall : (Program.call c).Only (Effect.Spares recorder) := ⟨nofun, fun _ => trivial⟩
  refine ((applyAll_annotates hl (.direct database user) c).only hcall).mono ?_
  intro e he
  rcases he with he | he
  · exact he
  · exact he.2

/-! ## One call -/

/-- Whether a call asks to roll back. -/
def Call.isRollback : Call → Bool
  | .rollback _ => true
  | _ => false

/-- What is to be recorded about a call that took some time: that it is a rollback, if it is one;
its time in milliseconds under its label; and its failure under the same label, if it failed. -/
def Exchange.observations (x : Exchange) (elapsed : Span) : List Observation :=
  (if x.1.isRollback then [.rollback] else []) ++
    (.duration x.1.label elapsed.rounded :: if x.2.isOk then [] else [.error x.1.label])

section Call

variable {σ : Type} (m : Machine σ) (inner : Store) (recorder : Recorder) (c : Call) (s : σ)

/-- The state in which a metered store begins to measure a call. -/
def Store.meteredFrom : σ :=
  match c with
  | .rollback _ => (m.step s (.observe recorder .rollback)).2
  | _ => s

/-- How long a store takes for a call: the difference of the monotonic clock right before and right
after it. -/
def Store.elapsed : Span :=
  let started : Instant × σ := m.step s .now
  let finished : Instant := (m.step ((inner.call c).run m started.2).2 .now).1
  finished.since started.1

variable {m inner recorder c s}

/-- A call that is measured is passed on once the clock has been read, and answered alike. -/
theorem Store.measured_run :
    ((measured recorder c (inner.call c)).run m s).1 =
      ((inner.call c).run m (m.step s .now).2).1 := by
  simp only [measured, Program.now, Program.observe, Program.ask, Program.bind_eq,
    Program.pure_eq_done, Program.perform_bind, Program.done_bind, Program.run_perform,
    Program.run_bind]
  cases ((inner.call c).run m (m.step s .now).2).1 <;> rfl

/-- Measuring a call records its duration, and then its failure. -/
theorem Store.Spares.observed_measured (h : inner.Spares recorder) :
    recorder.observed ((measured recorder c (inner.call c)).trace m s) =
      .duration c.label (inner.elapsed m c s).rounded ::
        if ((measured recorder c (inner.call c)).run m s).1.isOk then [] else [.error c.label] := by
  have hinner (s' : σ) :
      ((inner.call c).trace m s').filterMap (Answered.observation? recorder) = [] := by
    rw [List.filterMap_eq_nil_iff]
    intro x hx
    exact Effect.Spares.observation?_eq ((h c).of_mem_trace m hx) x.2
  have hself (o : Observation) :
      Answered.observation? recorder ⟨.observe recorder o, ()⟩ = some o := if_pos rfl
  have hnow (t : Instant) : Answered.observation? recorder ⟨.now, t⟩ = none := rfl
  rw [measured_run]
  simp only [Recorder.observed, measured, Program.now, Program.observe, Program.ask,
    Program.bind_eq, Program.pure_eq_done, Program.perform_bind, Program.done_bind,
    Program.trace_perform, Program.trace_bind, List.filterMap_cons, List.filterMap_append, hinner,
    hnow, hself, List.nil_append]
  cases ((inner.call c).run m (m.step s .now).2).1 with
  | ok reply => rfl
  | error e =>
    simp only [Program.trace_perform, Program.trace_done, List.filterMap_cons, hself,
      List.filterMap_nil]
    rfl

/-- About a call, a metered store records what is to be recorded, and nothing else. -/
theorem Store.Spares.observed_visit (h : inner.Spares recorder) (v : Visit σ) :
    recorder.observed (v.trace m (inner.metered recorder)) =
      (v.exchange m (inner.metered recorder)).observations
        (inner.elapsed m v.call (Store.meteredFrom m recorder v.call v.state)) := by
  obtain ⟨c, s⟩ := v
  cases c with
  | rollback tx =>
    -- The rollback is counted in a step of its own, and then the call is measured like any other.
    have hmeasured := h.observed_measured (m := m) (c := .rollback tx)
      (s := (m.step s (.observe recorder .rollback)).2)
    have hself : Answered.observation? recorder ⟨.observe recorder .rollback, ()⟩ =
      some .rollback := if_pos rfl
    show (List.filterMap (Answered.observation? recorder) (⟨.observe recorder .rollback, ()⟩ ::
      (measured recorder (.rollback tx) (inner.call (.rollback tx))).trace m
        (m.step s (.observe recorder .rollback)).2)) = _
    rw [List.filterMap_cons, hself]
    exact congrArg (Observation.rollback :: ·) hmeasured
  | _ => exact h.observed_measured

end Call

/-! ## Runs of clients -/

/-- Counting over parts of which each holds at most one of what is counted. -/
theorem countP_flatMap_eq {α β : Type} {l : List α} {f : α → List β} {q : β → Bool} {r : α → Bool}
    (h : ∀ a ∈ l, (f a).countP q = if r a then 1 else 0) :
    (l.flatMap f).countP q = l.countP r := by
  induction l with
  | nil => rfl
  | cons a rest ih =>
    obtain ⟨ha, hrest⟩ := List.forall_mem_cons.mp h
    rw [List.flatMap_cons, List.countP_append, ha, ih hrest, List.countP_cons, Nat.add_comm]

/-- Whether an observation is of a duration. -/
def Observation.isDuration : Observation → Bool
  | .duration .. => true
  | _ => false

section Counts

variable (x : Exchange) (elapsed : Span)

theorem Exchange.countP_isDuration_observations :
    (x.observations elapsed).countP Observation.isDuration = if true then 1 else 0 := by
  unfold observations
  cases x.1.isRollback <;> cases x.2.isOk <;> rfl

theorem Exchange.count_error_observations (label : String) :
    (x.observations elapsed).countP (· == .error label) =
      if x.1.label == label && !x.2.isOk then 1 else 0 := by
  unfold observations
  cases x.1.isRollback <;> cases x.2.isOk <;> simp [List.countP_cons]

theorem Exchange.count_rollback_observations :
    (x.observations elapsed).countP (· == .rollback) = if x.1.isRollback then 1 else 0 := by
  unfold observations
  cases x.1.isRollback <;> cases x.2.isOk <;> simp

end Counts

/-- A metered store anywhere in a stack of layers, with a recorder of its own, while a client works
on the stack: about each call that reaches it, which are the client's own, it records what is to be
recorded while the call is served, and nothing else is recorded. So there are as many durations as
calls, as many errors of each label as calls under the label that failed, and as many rollbacks as
requests to roll back. -/
theorem Client.observed_metered {σ α : Type} (m : Machine σ) (s : σ) {recorder : Recorder}
    {below above : List Layer} (hbelow : ∀ layer ∈ below, layer.Spares recorder)
    (habove : ∀ layer ∈ above, layer.Spares recorder) (database user : String)
    (client : Client α) :
    let inner := Layer.applyAll below (.direct database user)
    let layer := inner.metered recorder
    let stack := Layer.applyAll (below ++ .metered recorder :: above) (.direct database user)
    let calls := ((client.through stack).run m s).1.1
    let recorded := recorder.observed ((client.through stack).trace m s)
    let visits := client.visits m above layer s
    visits.map (·.exchange m layer) = calls ∧
      recorded = visits.flatMap (fun v => recorder.observed (v.trace m layer)) ∧
      (∀ v ∈ visits, recorder.observed (v.trace m layer) =
        (v.exchange m layer).observations
          (inner.elapsed m v.call (Store.meteredFrom m recorder v.call v.state))) ∧
      recorded.countP Observation.isDuration = calls.length ∧
      (∀ label, recorded.countP (· == .error label) =
        calls.countP fun x => x.1.label == label && !x.2.isOk) ∧
      recorded.countP (· == .rollback) = calls.countP fun x => x.1.isRollback := by
  intro inner layer stack calls recorded visits
  have hstack : stack = Layer.applyAll above layer := List.foldl_append
  have hcalls : visits.map (·.exchange m layer) = calls := by
    have h := client.map_exchange_visits (m := m) (fun l hl => (habove l hl).quiet) layer s
    simp only [calls, hstack]
    exact h
  have hrecorded : recorded = visits.flatMap fun v => recorder.observed (v.trace m layer) := by
    have hnone : ∀ l ∈ above, l.Asides fun e =>
        e.isCall = false ∧ ∀ answer, Answered.observation? recorder ⟨e, answer⟩ = none := by
      intro l hl
      exact (habove l hl).mono fun e he => ⟨he.1, he.2.observation?_eq⟩
    simp only [recorded, hstack]
    exact client.filterMap_trace (Answered.observation? recorder) hnone layer s
  have hvisit (v : Visit σ) : recorder.observed (v.trace m layer) =
      (v.exchange m layer).observations
        (inner.elapsed m v.call (Store.meteredFrom m recorder v.call v.state)) :=
    (Layer.applyAll_direct_spares hbelow database user).observed_visit v
  -- Each of the counts is a sum over the visits, and so is the number of calls of a kind.
  have hcount {q : Observation → Bool} {r : Exchange → Bool}
      (h : ∀ (x : Exchange) (elapsed : Span),
        (x.observations elapsed).countP q = if r x then 1 else 0) :
      recorded.countP q = calls.countP r := by
    rw [hrecorded, ← hcalls, List.countP_map]
    refine countP_flatMap_eq ?_
    intro v hv
    rw [hvisit]
    exact h _ _
  refine ⟨hcalls, hrecorded, fun v _ => hvisit v, ?_, fun label => ?_, ?_⟩
  · rw [hcount (r := fun _ => true) Exchange.countP_isDuration_observations, List.countP_true]
  · exact hcount fun x elapsed => x.count_error_observations elapsed label
  · exact hcount Exchange.count_rollback_observations

/-- A transaction whose rollback fails, on a metered store between a logged one and another metered
one. -/
theorem Client.observed_metered_of_failed_rollback :
    let below := [.logged .wall]
    let above := [.metered .discarding]
    let client : Client Unit := .call (.begin .none ⟨none⟩) fun begun =>
      match begun with
      | .error _ => .done ()
      | .ok tx => .call (.rollback tx) fun _ => .done ()
    let stack := Layer.applyAll (below ++ .metered (.kept 0) :: above) (.direct "accounts" "svc")
    let broken := Memory.empty.fail .rollback .transactionDone
    let start := World.start broken ⟨0, 0, 0⟩ "id"
    let recorded :=
      (Recorder.kept 0).observed ((client.through stack).trace (World.machine .memory) start)
    (∀ layer ∈ below, layer.Spares (.kept 0)) ∧ (∀ layer ∈ above, layer.Spares (.kept 0)) ∧
      recorded = [.duration "BEGIN" ⟨0⟩, .rollback, .duration "ROLLBACK" ⟨0⟩,
        .error "ROLLBACK"] ∧
      recorded.countP (· == .rollback) =
        ((client.through stack).run (World.machine .memory) start).1.1.countP
          fun x => x.1.isRollback := by
  intro below above client stack broken start recorded
  have hbelow : ∀ layer ∈ below, layer.Spares (.kept 0) := by
    intro layer hlayer
    rw [List.mem_singleton.mp hlayer]
    exact Layer.logged_wall_spares _
  have habove : ∀ layer ∈ above, layer.Spares (.kept 0) := by
    intro layer hlayer
    rw [List.mem_singleton.mp hlayer]
    exact Layer.metered_spares nofun
  obtain ⟨-, -, -, -, -, hrollbacks⟩ := Client.observed_metered (World.machine .memory) start
    hbelow habove "accounts" "svc" client
  exact ⟨hbelow, habove, by decide +kernel, hrollbacks⟩

end UserAccounts
