import UserAccounts.Proofs.Store.Visits

/-!
# What a logged store reports

A logged store within any stack of layers reports every call that is made through it once it has
been served below, and nothing else (`Client.logged_reports`):

* `Visit.Logged` — the clock is read, the call is passed on, the clock is read again, and then come
  the reports: one for the call, and another one if it failed, with the same facts in both;
* `Owner.Path` — the path from the store to what a call is made on, along which things were handed
  out; the scope of a report is that path, whatever else was handed out (`Owner.Path.scope_eq`);
* `Store.InTime` — reports from below carry readings of the clock that were taken meanwhile, so if
  the clock never goes back, they lie within the times of the report above.
-/

namespace UserAccounts

open Text (inspect)

/-! ## Reports as they are written -/

/-- An event as it is written out. -/
structure LogEntry where
  level : Level
  message : String
  fields : List (String × String)

/-- The written form of an event. -/
def Event.written (e : Event) : LogEntry := ⟨e.level, e.message, e.fields⟩

/-- What is to be written about a call: one entry that says whether it failed, and one more if it
did. All but the last field is the same in both. -/
def StoreReport.entries (r : StoreReport) (failure : Option StoreError) : List LogEntry :=
  let common := [("scope", r.scope.path), ("db_name", r.scope.database),
    ("db_user", r.scope.user), ("call", r.call.name), ("query", r.call.queryText),
    ("args", r.call.shownArgs), ("start", r.timing.start.display), ("end", r.timing.stop.display),
    ("elapsed_ms", inspect r.timing.elapsedMillis)]
  match failure with
  | none => [⟨.debug, "store call", common ++ [("error", "None")]⟩]
  | some e =>
    [⟨.debug, "store call", common ++ [("error", "Some(" ++ inspect e ++ ")")]⟩,
      ⟨.error, "store call failed", common ++ [("error", inspect e)]⟩]

/-- The reports of a call. -/
def StoreReport.events (r : StoreReport) (failure : Option StoreError) : List Event :=
  .storeCall r failure :: (failure.map (Event.storeCallFailed r)).toList

theorem StoreReport.map_written_events (r : StoreReport) (failure : Option StoreError) :
    (r.events failure).map Event.written = r.entries failure := by
  cases failure with
  | none => rfl
  | some e => rfl

/-! ## One call -/

section Call

variable {σ : Type}

/-- How a logged store serves a call: it reads its clock, has the call served by the store inside
between two readings of the monotonic clock, reads its clock again, and reports the call. -/
structure Visit.Logged (m : Machine σ) (clock : Clock) (inner : Store) (v : Visit σ)
    (entered left : σ) (r : StoreReport) (events : List Event) : Prop where
  trace_eq : ∃ started finished : Instant,
    v.trace m (inner.logged clock) =
      clock.universal.trace m v.state ++
        (⟨.now, started⟩ :: (Visit.mk v.call entered).trace m inner) ++
        (⟨.now, finished⟩ :: clock.universal.trace m left) ++
        events.map (fun event => ⟨.report event, ()⟩) ∧
    r.timing.elapsed = (finished.since started).rounded
  exchange_eq : v.exchange m (inner.logged clock) = (Visit.mk v.call entered).exchange m inner
  call_eq : r.call = v.call
  start_eq : r.timing.start = (clock.universal.run m v.state).1
  stop_eq : r.timing.stop = (clock.universal.run m left).1
  scope_eq : r.scope = Store.scope inner.database inner.user v.call
  events_eq : events = r.events (failure? (v.exchange m (inner.logged clock)).2)

/-- A program that is timed comes to its own result, with the readings around it. -/
theorem Program.run_timed {α : Type} (m : Machine σ) (clock : Clock) (p : Program α) (s : σ) :
    let read := clock.universal.run m s
    let started : Instant × σ := m.step read.2 .now
    let answered := p.run m started.2
    let finished : Instant × σ := m.step answered.2 .now
    let readAgain := clock.universal.run m finished.2
    (p.timed clock).run m s =
      ((answered.1, ⟨read.1, readAgain.1, (finished.1.since started.1).rounded⟩), readAgain.2) := by
  simp only [timed, now, ask, bind_eq, pure_eq_done, perform_bind, done_bind, run_perform, run_bind,
    run_done]

/-- A program that is timed is run between readings of the two clocks. -/
theorem Program.trace_timed {α : Type} (m : Machine σ) (clock : Clock) (p : Program α) (s : σ) :
    let read := clock.universal.run m s
    let started : Instant × σ := m.step read.2 .now
    let answered := p.run m started.2
    let finished : Instant × σ := m.step answered.2 .now
    (p.timed clock).trace m s =
      clock.universal.trace m s ++ (⟨.now, started.1⟩ :: p.trace m started.2) ++
        (⟨.now, finished.1⟩ :: clock.universal.trace m finished.2) := by
  simp only [timed, now, ask, bind_eq, pure_eq_done, perform_bind, done_bind, trace_perform,
    trace_bind, trace_done, List.append_nil, List.append_assoc, List.cons_append]

/-- A program that reports events, one after the other. -/
def Program.reportAll : List Event → Program Unit
  | [] => .done ()
  | event :: rest => .perform (.report event) fun _ => reportAll rest

theorem Program.trace_reportAll (m : Machine σ) (events : List Event) (s : σ) :
    (reportAll events).trace m s = events.map fun event => ⟨.report event, ()⟩ := by
  induction events generalizing s with
  | nil => rfl
  | cons event rest ih => exact congrArg (_ :: ·) (ih _)

/-- A logged store times each call and then reports it. -/
theorem Store.logged_call (clock : Clock) (inner : Store) (c : Call) :
    (inner.logged clock).call c = ((inner.call c).timed clock).bind fun timed =>
      (Program.reportAll ((StoreReport.mk (scope inner.database inner.user c) c timed.2).events
        (failure? timed.1))).bind fun _ => .done timed.1 := by
  refine congrArg (Program.bind _) (funext fun timed => ?_)
  obtain ⟨answer, timing⟩ := timed
  cases answer with
  | ok reply => rfl
  | error e => rfl

/-- A logged store serves every call so. -/
theorem Store.logged_visit (m : Machine σ) (clock : Clock) (inner : Store) (v : Visit σ) :
    ∃ entered left r events, v.Logged m clock inner entered left r events := by
  obtain ⟨c, s⟩ := v
  let started : Instant × σ := m.step (clock.universal.run m s).2 .now
  let finished : Instant × σ := m.step ((inner.call c).run m started.2).2 .now
  let timing : Timing := ⟨(clock.universal.run m s).1, (clock.universal.run m finished.2).1,
    (finished.1.since started.1).rounded⟩
  have hrun := Program.run_timed m clock (inner.call c) s
  have hexchange : (Visit.mk c s).exchange m (inner.logged clock) =
      (Visit.mk c started.2).exchange m inner := by
    unfold Visit.exchange
    rw [logged_call, Program.run_bind, hrun, Program.run_bind]
    rfl
  refine ⟨started.2, finished.2, ⟨scope inner.database inner.user c, c, timing⟩, _,
    ⟨started.1, finished.1, ?_, rfl⟩, hexchange, rfl, rfl, rfl, rfl, rfl⟩
  unfold Visit.trace
  rw [logged_call, Program.trace_bind, Program.trace_timed, hrun, Program.trace_bind,
    Program.trace_reportAll, Program.trace_done, List.append_nil, hexchange]
  rfl

end Call

/-! ## Scopes -/

/-- What a call is made on. -/
inductive Owner where
  | store
  | transaction (tx : Transaction)
  | statement (s : Statement)

/-- What a call is made on. -/
def Call.owner : Call → Owner
  | .prepare none _ _ | .begin .. => .store
  | .prepare (some tx) _ _ | .commit tx | .rollback tx => .transaction tx
  | .exec s _ _ | .queryRow s _ _ | .queryRows s _ _ | .close s => .statement s

/-- What a call hands out when it succeeds, with the name that it has there. -/
def Exchange.handsOut? : Exchange → Option (Owner × String)
  | ⟨.begin .., .ok tx⟩ => some (.transaction tx, "tx")
  | ⟨.prepare within _ _, .ok p⟩ => some (.statement (p.statement within), "stmt")
  | _ => none

/-- The path from a store to something on which calls can be made: the names under which things were
handed out, each by a call on the one before. -/
inductive Owner.Path (calls : List Exchange) : Owner → List String → Prop
  | store : Path calls .store []
  | child {x : Exchange} {owner : Owner} {name : String} {path : List String} (hx : x ∈ calls)
      (parent : Path calls x.1.owner path) (handed : x.handsOut? = some (owner, name)) :
      Path calls owner (path ++ [name])

namespace Owner

/-- The names on the path to an owner. -/
def names : Owner → List String
  | .store => []
  | .transaction _ => ["tx"]
  | .statement s =>
    match s.within with
    | none => ["stmt"]
    | some _ => ["tx", "stmt"]

/-- Whatever was handed out before, the path to an owner is the same. -/
theorem Path.eq_names {calls : List Exchange} {owner : Owner} {path : List String}
    (h : Path calls owner path) : path = owner.names := by
  induction h with
  | store => rfl
  | @child x owner name path hx parent handed ih =>
    obtain ⟨c, answer⟩ := x
    rw [ih]
    cases c with
    | begin d options =>
      cases answer with
      | error e => cases handed
      | ok tx =>
        cases handed
        rfl
    | prepare within d query =>
      cases answer with
      | error e => cases handed
      | ok p =>
        cases handed
        cases within with
        | none => rfl
        | some tx => rfl
    | _ => cases handed

/-- The scope of a report is the path to what the call was made on. -/
theorem Path.scope_eq {calls : List Exchange} {c : Call} {path : List String}
    (h : Path calls c.owner path) (database user : String) :
    Store.scope database user c = ⟨".".intercalate ("store" :: path), database, user⟩ := by
  have hstatement (s : Statement) : (match s.within with
      | none => (LogScope.root database user).named "stmt"
      | some _ => ((LogScope.root database user).named "tx").named "stmt") =
      ⟨".".intercalate ("store" :: (Owner.statement s).names), database, user⟩ := by
    obtain ⟨key, query, within⟩ := s
    cases within with
    | none => rfl
    | some tx => rfl
  rw [h.eq_names]
  cases c with
  | prepare within d query =>
    cases within with
    | none => rfl
    | some tx => rfl
  | exec s d args => exact hstatement s
  | queryRow s d args => exact hstatement s
  | queryRows s d args => exact hstatement s
  | close s => exact hstatement s
  | _ => rfl

end Owner

/-! ## Times -/

/-- The time that was read off the wall clock, if it was. -/
def Answered.reading? : Answered → Option Timestamp
  | ⟨.clock .universal, t⟩ => some t
  | _ => none

/-- The times that were read off the wall clock, in order. -/
def readings (trace : List Answered) : List Timestamp := trace.filterMap Answered.reading?

/-- The call that was reported as answered, if one was. -/
def Answered.storeReport? : Answered → Option StoreReport
  | ⟨.report (.storeCall r _), _⟩ => some r
  | _ => none

/-- The reports of calls that were answered, in order. -/
def storeReports (trace : List Answered) : List StoreReport :=
  trace.filterMap Answered.storeReport?

/-- A clock that reads the wall clock once for each time that it tells, and reports no calls. -/
def Clock.Faithful (clock : Clock) : Prop :=
  ∀ {σ : Type} (m : Machine σ) (s : σ),
    readings (clock.universal.trace m s) = [(clock.universal.run m s).1] ∧
      storeReports (clock.universal.trace m s) = []

theorem Clock.wall_faithful : Clock.wall.Faithful := fun _ _ => ⟨rfl, rfl⟩

theorem Clock.Faithful.logged {clock : Clock} (h : clock.Faithful) : clock.logged.Faithful := by
  intro σ m s
  obtain ⟨hread, hreport⟩ := h m s
  have htrace : clock.logged.universal.trace m s = clock.universal.trace m s ++
      [⟨.report (.timeRead .universal (clock.universal.run m s).1), ()⟩] :=
    Program.trace_bind m clock.universal _ s
  have hrun : (clock.logged.universal.run m s).1 = (clock.universal.run m s).1 := by
    show ((clock.universal.bind _).run m s).1 = _
    rw [Program.run_bind]
    rfl
  rw [htrace, hrun]
  unfold readings storeReports at *
  rw [List.filterMap_append, List.filterMap_append, hread, hreport]
  exact ⟨rfl, rfl⟩

/-- A layer whose clock, if it has one, is faithful. -/
def Layer.Faithful : Layer → Prop
  | .metered _ => True
  | .logged clock => clock.Faithful

/-- A store from which calls are reported with times that were read meanwhile. -/
def Store.InTime (store : Store) : Prop :=
  ∀ {σ : Type} (m : Machine σ) (v : Visit σ), ∀ r ∈ storeReports (v.trace m store),
    r.timing.start ∈ readings (v.trace m store) ∧ r.timing.stop ∈ readings (v.trace m store)

theorem readings_append (l l' : List Answered) : readings (l ++ l') = readings l ++ readings l' :=
  List.filterMap_append

theorem storeReports_append (l l' : List Answered) :
    storeReports (l ++ l') = storeReports l ++ storeReports l' :=
  List.filterMap_append

section Times

variable {σ : Type} {m : Machine σ} {clock : Clock} {inner : Store} {v : Visit σ}
  {entered left : σ} {r : StoreReport} {events : List Event}

/-- While a logged store serves a call, the wall clock is read at its beginning, at its end, and as
often as below in between. -/
theorem Visit.Logged.readings_eq (h : v.Logged m clock inner entered left r events)
    (hclock : clock.Faithful) :
    readings (v.trace m (inner.logged clock)) =
      r.timing.start :: readings ((Visit.mk v.call entered).trace m inner) ++ [r.timing.stop] := by
  obtain ⟨started, finished, htrace, -⟩ := h.trace_eq
  have hevents : readings (events.map fun event => ⟨.report event, ()⟩) = [] := by
    rw [h.events_eq]
    cases failure? (v.exchange m (inner.logged clock)).2 <;> rfl
  have hnow (t : Instant) (l : List Answered) : readings (⟨.now, t⟩ :: l) = readings l := rfl
  rw [htrace, readings_append, readings_append, readings_append, hnow, hnow, hevents,
    (hclock m v.state).1, (hclock m left).1, h.start_eq, h.stop_eq, List.append_nil]
  rfl

/-- While a logged store serves a call, the call itself is reported last, after what is reported
from below. -/
theorem Visit.Logged.storeReports_eq (h : v.Logged m clock inner entered left r events)
    (hclock : clock.Faithful) :
    storeReports (v.trace m (inner.logged clock)) =
      storeReports ((Visit.mk v.call entered).trace m inner) ++ [r] := by
  obtain ⟨started, finished, htrace, -⟩ := h.trace_eq
  have hevents : storeReports (events.map fun event => ⟨.report event, ()⟩) = [r] := by
    rw [h.events_eq]
    cases failure? (v.exchange m (inner.logged clock)).2 <;> rfl
  have hnow (t : Instant) (l : List Answered) : storeReports (⟨.now, t⟩ :: l) = storeReports l :=
    rfl
  rw [htrace, storeReports_append, storeReports_append, storeReports_append, hnow, hnow, hevents,
    (hclock m v.state).2, (hclock m left).2, List.append_nil]
  rfl

theorem Store.direct_inTime (database user : String) : (direct database user).InTime := by
  intro σ m v r hr
  cases hr

theorem Store.InTime.logged (h : inner.InTime) (hclock : clock.Faithful) :
    (inner.logged clock).InTime := by
  intro σ m v r hr
  obtain ⟨entered, left, own, events, hv⟩ := Store.logged_visit m clock inner v
  rw [hv.storeReports_eq hclock, List.mem_append, List.mem_singleton] at hr
  rw [hv.readings_eq hclock]
  rcases hr with hr | rfl
  · obtain ⟨hstart, hstop⟩ := h m _ r hr
    exact ⟨List.mem_append_left _ (List.mem_cons_of_mem _ hstart),
      List.mem_append_left _ (List.mem_cons_of_mem _ hstop)⟩
  · exact ⟨List.mem_append_left _ List.mem_cons_self,
      List.mem_append_right _ (List.mem_singleton.mpr rfl)⟩

/-- What a metered store asks for besides passing a call on shows neither in the readings nor in the
reports. -/
theorem Store.metered_visit (m : Machine σ) (recorder : Recorder) (inner : Store) (v : Visit σ) :
    ∃ entered,
      readings (v.trace m (inner.metered recorder)) =
        readings ((Visit.mk v.call entered).trace m inner) ∧
      storeReports (v.trace m (inner.metered recorder)) =
        storeReports ((Visit.mk v.call entered).trace m inner) := by
  have hmeasured (c : Call) (s : σ) : ∃ entered after,
      (measured recorder c (inner.call c)).trace m s =
        ⟨.now, (m.step s .now).1⟩ :: (inner.call c).trace m entered ++ after ∧
      readings after = [] ∧ storeReports after = [] := by
    refine ⟨_, _, congrArg (_ :: ·) (Program.trace_bind m (inner.call c) _ _), ?_⟩
    cases ((inner.call c).run m (m.step s .now).2).1 <;> exact ⟨rfl, rfl⟩
  have hsilent {c : Call} {s : σ} : ∃ entered,
      readings ((measured recorder c (inner.call c)).trace m s) =
        readings ((inner.call c).trace m entered) ∧
      storeReports ((measured recorder c (inner.call c)).trace m s) =
        storeReports ((inner.call c).trace m entered) := by
    obtain ⟨entered, after, htrace, hread, hreport⟩ := hmeasured c s
    refine ⟨entered, ?_, ?_⟩
    · rw [htrace, readings_append, hread, List.append_nil]
      rfl
    · rw [htrace, storeReports_append, hreport, List.append_nil]
      rfl
  obtain ⟨c, s⟩ := v
  cases c with
  | rollback tx => exact hsilent (s := (m.step s (.observe recorder .rollback)).2)
  | _ => exact hsilent

theorem Store.InTime.metered (h : inner.InTime) (recorder : Recorder) :
    (inner.metered recorder).InTime := by
  intro σ m v r hr
  obtain ⟨entered, hread, hreport⟩ := Store.metered_visit m recorder inner v
  rw [hreport] at hr
  rw [hread]
  exact h m _ r hr

theorem Layer.applyAll_inTime {layers : List Layer} (hl : ∀ layer ∈ layers, layer.Faithful)
    (h : inner.InTime) : (applyAll layers inner).InTime := by
  apply applyAll_induction (P := Store.InTime) h
  intro layer hlayer wrapped hwrapped
  cases layer with
  | metered recorder => exact hwrapped.metered recorder
  | logged clock => exact hwrapped.logged (hl _ hlayer)

/-- If the wall clock never goes back while a logged store serves a call, the call does not end
before it starts, and what is reported from below lies between. -/
theorem Visit.Logged.ordered (h : v.Logged m clock inner entered left r events)
    (hclock : clock.Faithful) (hinner : inner.InTime)
    (hsorted : (readings (v.trace m (inner.logged clock))).Pairwise (·.nanos ≤ ·.nanos)) :
    r.timing.start.nanos ≤ r.timing.stop.nanos ∧
      ∀ r' ∈ storeReports ((Visit.mk v.call entered).trace m inner),
        r.timing.start.nanos ≤ r'.timing.start.nanos ∧
          r'.timing.stop.nanos ≤ r.timing.stop.nanos := by
  rw [h.readings_eq hclock, List.cons_append, List.pairwise_cons, List.pairwise_append] at hsorted
  obtain ⟨hstart, -, -, hstop⟩ := hsorted
  refine ⟨hstart _ (List.mem_append_right _ (List.mem_singleton.mpr rfl)), ?_⟩
  intro r' hr'
  obtain ⟨hstart', hstop'⟩ := hinner m _ r' hr'
  exact ⟨hstart _ (List.mem_append_left _ hstart'), hstop _ hstop' _ (List.mem_singleton.mpr rfl)⟩

end Times

/-! ## Runs of clients -/

/-- A logged store anywhere in a stack of layers while a client works on the stack. The calls that
reach it are the client's own. Each of them is served between two readings of the clock and then
reported, in one entry that says whether it failed and in another one if it did. The entries name
the store at the bottom and its user, and their scope is the path to what the call was made on. If
the clock never goes back in the course of the run, no call ends before it starts, and the calls
that are reported from below lie between. -/
theorem Client.logged_reports {σ α : Type} (m : Machine σ) (s : σ) {clock : Clock}
    {below above : List Layer} (habove : ∀ layer ∈ above, layer.Quiet) (database user : String)
    (client : Client α) :
    let inner := Layer.applyAll below (.direct database user)
    let layer := inner.logged clock
    let stack := Layer.applyAll (below ++ .logged clock :: above) (.direct database user)
    let calls := ((client.through stack).run m s).1.1
    let visits := client.visits m above layer s
    visits.map (·.exchange m layer) = calls ∧
      ∀ v ∈ visits, v.trace m layer <:+: (client.through stack).trace m s ∧
        ∃ entered left r events, v.Logged m clock inner entered left r events ∧
          events.map Event.written = r.entries (failure? (v.exchange m layer).2) ∧
          (∀ path, v.call.owner.Path calls path →
            r.scope = ⟨".".intercalate ("store" :: path), database, user⟩) ∧
          (clock.Faithful → (∀ layer ∈ below, layer.Faithful) →
            (readings ((client.through stack).trace m s)).Pairwise (·.nanos ≤ ·.nanos) →
            r.timing.start.nanos ≤ r.timing.stop.nanos ∧
              ∀ r' ∈ storeReports ((Visit.mk v.call entered).trace m inner),
                r.timing.start.nanos ≤ r'.timing.start.nanos ∧
                  r'.timing.stop.nanos ≤ r.timing.stop.nanos) := by
  intro inner layer stack calls visits
  have hstack : stack = Layer.applyAll above layer := List.foldl_append
  have hname := Layer.identity_applyAll below (.direct database user)
  refine ⟨?_, ?_⟩
  · have h := client.map_exchange_visits (m := m) habove layer s
    simp only [calls, hstack]
    exact h
  · intro v hv
    have hwithin : v.trace m layer <:+: (client.through stack).trace m s := by
      rw [hstack, client.through_applyAll habove]
      exact Program.trace_infix_of_mem_visits hv
    obtain ⟨entered, left, r, events, hlogged⟩ := Store.logged_visit m clock inner v
    refine ⟨hwithin, entered, left, r, events, hlogged, ?_, ?_, ?_⟩
    · rw [hlogged.events_eq, StoreReport.map_written_events]
    · intro path hpath
      rw [hlogged.scope_eq, hname.1, hname.2]
      exact hpath.scope_eq database user
    · intro hclock hbelow hsorted
      have hinner : inner.InTime := Layer.applyAll_inTime hbelow (Store.direct_inTime _ _)
      exact hlogged.ordered hclock hinner (hsorted.sublist (hwithin.sublist.filterMap _))

/-- A transaction whose rollback fails, on two logged stores and a metered one, while the clock
moves by a millisecond with every reading. The inner of the two reports its readings, too. -/
theorem Client.logged_reports_of_failed_rollback :
    let below := [.logged Clock.wall.logged]
    let above := [.metered .discarding]
    let client : Client Unit := .call (.begin .none ⟨none⟩) fun begun =>
      match begun with
      | .error _ => .done ()
      | .ok tx => .call (.rollback tx) fun _ => .done ()
    let inner := Layer.applyAll below (.direct "accounts" "svc")
    let stack := Layer.applyAll (below ++ .logged .wall :: above) (.direct "accounts" "svc")
    let broken := Memory.empty.fail .rollback .transactionDone
    let start := World.start broken ⟨0, 1, 0⟩ "id"
    let m := World.machine .memory
    let visits := client.visits m above (inner.logged .wall) start
    (∀ layer ∈ above, layer.Quiet) ∧ Clock.wall.Faithful ∧
      (∀ layer ∈ below, layer.Faithful) ∧
      (readings ((client.through stack).trace m start)).Pairwise (·.nanos ≤ ·.nanos) ∧
      visits.length = 2 ∧
      ∀ v ∈ visits, ∃ entered left r events, v.Logged m .wall inner entered left r events ∧
        (storeReports ((Visit.mk v.call entered).trace m inner)).length = 1 ∧
        ∀ r' ∈ storeReports ((Visit.mk v.call entered).trace m inner),
          r.timing.start.nanos ≤ r'.timing.start.nanos ∧
            r'.timing.stop.nanos ≤ r.timing.stop.nanos := by
  intro below above client inner stack broken start m visits
  have habove : ∀ layer ∈ above, layer.Quiet := by
    intro layer hlayer
    rw [List.mem_singleton.mp hlayer]
    exact Layer.metered_quiet _
  have hbelow : ∀ layer ∈ below, layer.Faithful := by
    intro layer hlayer
    rw [List.mem_singleton.mp hlayer]
    exact Clock.wall_faithful.logged
  have hsorted : (readings ((client.through stack).trace m start)).Pairwise
      (·.nanos ≤ ·.nanos) := by
    decide +kernel
  refine ⟨habove, Clock.wall_faithful, hbelow, hsorted, by decide +kernel, ?_⟩
  intro v hv
  obtain ⟨-, hall⟩ := @Client.logged_reports _ _ m start .wall below above habove
    "accounts" "svc" client
  obtain ⟨-, entered, left, r, events, hlogged, -, -, htimes⟩ := hall v hv
  refine ⟨entered, left, r, events, hlogged, ?_, ?_⟩
  · have hinner := Store.logged_visit m Clock.wall.logged (.direct "accounts" "svc")
      ⟨v.call, entered⟩
    obtain ⟨_, _, own, _, hown⟩ := hinner
    have hreports := hown.storeReports_eq Clock.wall_faithful.logged
    exact congrArg List.length hreports
  · exact (htimes Clock.wall_faithful hbelow hsorted).2

end UserAccounts
