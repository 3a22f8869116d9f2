import UserAccounts.Proofs.Account.Outcome
import UserAccounts.Proofs.Store.Reports
import UserAccounts.Scenario

/-!
# What a service reports about its calls

A service whose calls are reported makes one report of every call, with the outcome of the call, and
one more if it failed; both carry the identifier of the request that is being served
(`Service.logged_reports`). No other part of the application makes such reports: a program is
`Program.Untracked` if it leaves them alone, and so is the account service on a stack of layers
(`Service.ofStore_untracked`).
-/

namespace UserAccounts

open Text (Inspect inspect)

/-! ## Reports about requests and calls to the service -/

/-- Whether an event is about a request, or about a call to the account service. -/
def Event.isTracked : Event → Bool
  | .serviceCall .. | .serviceCallFailed .. | .requestHandled .. => true
  | _ => false

/-- An effect that neither reports a request or a call to the service nor makes up an identifier for
a request. -/
def Effect.Untracked : Effect → Prop
  | .report event => event.isTracked = false
  | .freshRequest => False
  | _ => True

/-- The report of a request or a call to the service. -/
def Answered.tracked? : Answered → Option Event
  | ⟨.report event, _⟩ => if event.isTracked then some event else none
  | _ => none

/-- The identifier that was made up for a request. -/
def Answered.fresh? : Answered → Option RequestId
  | ⟨.freshRequest, id⟩ => some id
  | _ => none

/-- The reports of requests and of calls to the service in a trace, in order. -/
def trackedIn (trace : List Answered) : List Event := trace.filterMap Answered.tracked?

/-- The identifiers that were made up for requests in a trace, in order. -/
def freshIn (trace : List Answered) : List RequestId := trace.filterMap Answered.fresh?

@[simp] theorem trackedIn_append (before after : List Answered) :
    trackedIn (before ++ after) = trackedIn before ++ trackedIn after :=
  List.filterMap_append

@[simp] theorem freshIn_append (before after : List Answered) :
    freshIn (before ++ after) = freshIn before ++ freshIn after :=
  List.filterMap_append

@[simp] theorem trackedIn_now (time : Instant) (rest : List Answered) :
    trackedIn (⟨.now, time⟩ :: rest) = trackedIn rest := rfl

@[simp] theorem freshIn_now (time : Instant) (rest : List Answered) :
    freshIn (⟨.now, time⟩ :: rest) = freshIn rest := rfl

theorem trackedIn_reports {events : List Event} (h : ∀ event ∈ events, event.isTracked = true) :
    trackedIn (events.map fun event => ⟨.report event, ()⟩) = events := by
  induction events with
  | nil => rfl
  | cons event rest ih =>
    obtain ⟨hevent, hrest⟩ := List.forall_mem_cons.mp h
    have htracked : Answered.tracked? ⟨.report event, ()⟩ = some event := if_pos hevent
    rw [List.map_cons, trackedIn, List.filterMap_cons, htracked]
    exact congrArg (event :: ·) (ih hrest)

theorem freshIn_reports (events : List Event) :
    freshIn (events.map fun event => ⟨.report event, ()⟩) = [] := by
  induction events with
  | nil => rfl
  | cons event rest ih => exact ih

/-! ## Programs without such reports -/

namespace Program

variable {σ α β : Type}

/-- A program that leaves the reports of requests and of calls to the service to others. -/
def Untracked (p : Program α) : Prop := p.Only Effect.Untracked

theorem Untracked.trackedIn_trace {p : Program α} (hp : p.Untracked) (m : Machine σ) (s : σ) :
    trackedIn (p.trace m s) = [] := by
  refine List.filterMap_eq_nil_iff.mpr fun x hx => ?_
  have hkind := hp.of_mem_trace m hx
  obtain ⟨e, answer⟩ := x
  cases e with
  | report event =>
    have hevent : event.isTracked = false := hkind
    exact if_neg (by rw [hevent]; decide)
  | _ => rfl

theorem Untracked.freshIn_trace {p : Program α} (hp : p.Untracked) (m : Machine σ) (s : σ) :
    freshIn (p.trace m s) = [] := by
  refine List.filterMap_eq_nil_iff.mpr fun x hx => ?_
  have hkind := hp.of_mem_trace m hx
  obtain ⟨e, answer⟩ := x
  cases e with
  | freshRequest => exact hkind.elim
  | _ => rfl

theorem Only.duringRequest {kind : Effect → Prop} {p : Program α} (hp : p.Only kind)
    (id : RequestId) : (p.duringRequest id).Only kind := by
  induction p with
  | done a => trivial
  | perform e next ih =>
    cases e with
    | currentRequest => exact ih (some id) (hp.2 (some id))
    | _ => exact ⟨hp.1, fun answer => ih answer (hp.2 answer)⟩

theorem duringRequest_bind (id : RequestId) (p : Program α) (f : α → Program β) :
    (p.bind f).duringRequest id = (p.duringRequest id).bind fun a => (f a).duringRequest id := by
  induction p with
  | done a => rfl
  | perform e next ih =>
    cases e with
    | currentRequest => exact ih (some id)
    | _ => exact congrArg (perform _) (funext ih)

end Program

/-- A clock that makes no reports about requests or calls to the service. -/
def Clock.Untracked (clock : Clock) : Prop := ∀ zone, (clock.read zone).Untracked

theorem Clock.wall_untracked : Clock.wall.Untracked := fun _ => ⟨trivial, fun _ => trivial⟩

theorem Clock.Untracked.logged {clock : Clock} (h : clock.Untracked) : clock.logged.Untracked :=
  fun zone => (h zone).bind fun _ => ⟨rfl, fun _ => trivial⟩

/-- A clock that is read as part of a request. -/
def Clock.duringRequest (id : RequestId) (clock : Clock) : Clock where
  read zone := (clock.read zone).duringRequest id

theorem Clock.Untracked.duringRequest {clock : Clock} (h : clock.Untracked) (id : RequestId) :
    (clock.duringRequest id).Untracked :=
  fun zone => (h zone).duringRequest id

/-! ## A call that is reported -/

/-- The reports of a call to the service: one with its outcome, and another one if it failed. -/
def ServiceReport.events (entry : ServiceReport) : Except Failure String → List Event
  | .ok shown => [.serviceCall entry (.ok shown)]
  | .error cause => [.serviceCall entry (.error cause), .serviceCallFailed entry cause]

theorem ServiceReport.isTracked_events (entry : ServiceReport) (outcome : Except Failure String) :
    ∀ event ∈ entry.events outcome, event.isTracked = true := by
  cases outcome <;> simp [events, Event.isTracked]

namespace Service

variable {σ α : Type} [Inspect α]

/-- While a request is served, a call is timed and then reported under the identifier of the
request. -/
theorem duringRequest_reported (id : RequestId) (clock : Clock) (operation before : String)
    (p : Program (Except Failure α)) :
    (reported clock operation before p).duringRequest id =
      ((p.duringRequest id).timed (clock.duringRequest id)).bind fun timed =>
        (Program.reportAll ((ServiceReport.mk operation (some id) before timed.2).events
          (timed.1.map inspect))).bind fun _ => .done timed.1 := by
  simp only [reported, Program.timed, Program.bind_eq, Program.pure_eq_done, Program.bind_assoc,
    Program.duringRequest_bind, Program.done_bind]
  refine congrArg (Program.bind _) (funext fun start => ?_)
  refine congrArg (Program.bind _) (funext fun started => ?_)
  refine congrArg (Program.bind _) (funext fun outcome => ?_)
  refine congrArg (Program.bind _) (funext fun finished => ?_)
  refine congrArg (Program.bind _) (funext fun stop => ?_)
  cases outcome <;> rfl

/-- A call that is reported is made once, and its reports are all that there is. -/
theorem reported_tracks {clock : Clock} (hclock : clock.Untracked) (operation before : String)
    {p : Program (Except Failure α)} (hp : p.Untracked) (id : RequestId) (m : Machine σ) (s : σ) :
    let call := p.duringRequest id
    let trace := ((reported clock operation before p).duringRequest id).trace m s
    ∃ entered timing, call.trace m entered <:+: trace ∧ freshIn trace = [] ∧
      trackedIn trace = (ServiceReport.mk operation (some id) before timing).events
        ((call.run m entered).1.map inspect) := by
  intro call trace
  let reading := clock.duringRequest id
  have hreading : reading.universal.Untracked := hclock.duringRequest id .universal
  let started : Instant × σ := m.step (reading.universal.run m s).2 .now
  let finished : Instant × σ := m.step (call.run m started.2).2 .now
  have hrun := Program.run_timed m reading call s
  let timing : Timing := ⟨(reading.universal.run m s).1, (reading.universal.run m finished.2).1,
    (finished.1.since started.1).rounded⟩
  let reports := (ServiceReport.mk operation (some id) before timing).events
    ((call.run m started.2).1.map inspect)
  have htrace : trace =
      reading.universal.trace m s ++ (⟨.now, started.1⟩ :: call.trace m started.2) ++
        (⟨.now, finished.1⟩ :: reading.universal.trace m finished.2) ++
        reports.map fun event => ⟨.report event, ()⟩ := by
    simp only [trace, duringRequest_reported]
    rw [Program.trace_bind, Program.trace_timed, hrun, Program.trace_bind,
      Program.trace_reportAll, Program.trace_done, List.append_nil]
  have hcall : call.Untracked := Program.Only.duringRequest hp id
  have hreports : trackedIn (reports.map fun event => ⟨.report event, ()⟩) = reports :=
    trackedIn_reports (ServiceReport.isTracked_events _ _)
  refine ⟨started.2, timing, ?_, ?_, ?_⟩
  · rw [htrace]
    have hinner : call.trace m started.2 <:+ reading.universal.trace m s ++
        (⟨.now, started.1⟩ :: call.trace m started.2) :=
      (List.suffix_cons _ _).trans (List.suffix_append _ _)
    exact hinner.isInfix.trans
      ((List.prefix_append _ _).trans (List.prefix_append _ _)).isInfix
  · rw [htrace]
    simp only [freshIn_append, freshIn_now, hreading.freshIn_trace, hcall.freshIn_trace,
      freshIn_reports, List.append_nil]
  · rw [htrace]
    simp only [trackedIn_append, trackedIn_now, hreading.trackedIn_trace, hcall.trackedIn_trace,
      hreports, List.append_nil, List.nil_append]
    rfl

/-- The operations of a service make no reports of requests or of calls to the service. -/
structure Untracked (service : Service) : Prop where
  create : ∀ account, (service.create account).Untracked
  list : ∀ window, (service.list window).Untracked
  find : ∀ id, (service.find id).Untracked

end Service

/-! ## Inquiries -/

namespace Scenario.Inquiry

/-- The name of what is asked. -/
def operation : Inquiry → String
  | .create _ => "create_user_account"
  | .list _ => "find_user_accounts"
  | .find _ => "find_user_account_by_id"

/-- What goes into an inquiry, as reports show it. -/
def before : Inquiry → String
  | .create account => inspect account
  | .list window => inspect window
  | .find id => inspect id

/-- Ask the service, and show what comes of it. -/
def shown (service : Service) : Inquiry → Program (Except Failure String)
  | .create account => (service.create account).bind fun outcome => .done (outcome.map inspect)
  | .list window => (service.list window).bind fun outcome => .done (outcome.map inspect)
  | .find id => (service.find id).bind fun outcome => .done (outcome.map inspect)

end Scenario.Inquiry

open Scenario (Inquiry)

/-- An inquiry was made of a service in a piece of a trace, as part of a request, and these are the
reports of it. -/
def ReportsInquiry {σ : Type} (service : Service) (m : Machine σ) (id : RequestId)
    (inquiry : Inquiry) (trace : List Answered) (reports : List Event) : Prop :=
  ∃ (s : σ) (timing : Timing),
    let asked := (inquiry.shown service).duringRequest id
    asked.trace m s <:+: trace ∧
      reports = (ServiceReport.mk inquiry.operation (some id) inquiry.before timing).events
        (asked.run m s).1

/-! ## Services over stores -/

/-- The calls to a store make no reports of requests or of calls to the service. -/
def Store.Untracked (store : Store) : Prop := ∀ c, (store.call c).Untracked

/-- Identifiers whose making is not reported as a request or a call to the service. -/
def Identifiers.Untracked (ids : Identifiers) : Prop := ids.next.Untracked

/-- A layer that makes no reports of requests or of calls to the service. -/
def Layer.Untracked : Layer → Prop
  | .metered _ => True
  | .logged clock => clock.Untracked

theorem Identifiers.fresh_untracked : Identifiers.fresh.Untracked := ⟨trivial, fun _ => trivial⟩

theorem Identifiers.Untracked.logged {ids : Identifiers} (h : ids.Untracked) :
    ids.logged.Untracked :=
  Program.Only.bind h fun _ => ⟨rfl, fun _ => trivial⟩

namespace Store

variable {store : Store}

theorem direct_untracked (database user : String) : (direct database user).Untracked :=
  fun _ => ⟨trivial, fun _ => trivial⟩

theorem Untracked.metered (h : store.Untracked) (recorder : Recorder) :
    (store.metered recorder).Untracked := by
  have hmeasured (c : Call) : (measured recorder c (store.call c)).Untracked := by
    refine ⟨trivial, fun started => (h c).bind fun answer => ⟨trivial, fun finished => ⟨trivial,
      fun _ => ?_⟩⟩⟩
    cases answer with
    | ok reply => trivial
    | error e => exact ⟨trivial, fun _ => trivial⟩
  intro c
  cases c with
  | rollback tx => exact ⟨trivial, fun _ => hmeasured _⟩
  | _ => exact hmeasured _

theorem Untracked.logged (h : store.Untracked) {clock : Clock} (hclock : clock.Untracked) :
    (store.logged clock).Untracked := by
  have htimed (c : Call) : ((store.call c).timed clock).Untracked :=
    (hclock .universal).bind fun start => ⟨trivial, fun started => (h c).bind fun answer =>
      ⟨trivial, fun finished => (hclock .universal).bind fun stop => trivial⟩⟩
  intro c
  refine (htimed c).bind fun ⟨answer, timing⟩ => ⟨rfl, fun _ => ?_⟩
  cases answer with
  | ok reply => trivial
  | error e => exact ⟨rfl, fun _ => trivial⟩

theorem Untracked.applyAll (h : store.Untracked) {layers : List Layer}
    (hlayers : ∀ layer ∈ layers, layer.Untracked) : (Layer.applyAll layers store).Untracked := by
  unfold Layer.applyAll
  induction layers generalizing store with
  | nil => exact h
  | cons layer rest ih =>
    obtain ⟨hlayer, hrest⟩ := List.forall_mem_cons.mp hlayers
    refine ih ?_ hrest
    cases layer with
    | metered recorder => exact h.metered recorder
    | logged clock => exact h.logged hlayer

theorem Untracked.bracket (h : store.Untracked) {within : Option Transaction} {d : Deadline}
    {query : String} {α : Type} {work : Statement → Program (Except StoreError α)}
    (hwork : ∀ s, (work s).Untracked) : (store.bracket within d query work).Untracked :=
  bracket_only (fun c _ => h c) hwork

end Store

section Operations

variable {store : Store} {ids : Identifiers} {clock : Clock}

theorem insertRows_untracked (h : store.Untracked) (hids : ids.Untracked)
    (hclock : clock.Untracked) (tx : Transaction) (d : Deadline) (account : Account) :
    (insertRows store ids clock tx d account).Untracked := by
  refine Program.Only.bind (h.bracket fun s => h _) fun check => ?_
  rcases firstColumn false (·.boolean 0) check with e | (_ | _)
  · trivial
  · refine Program.Only.bind hids fun userId => Program.Only.bind (hclock .universal)
      fun userMoment => Program.Only.bind (h.bracket fun s => h _) fun users => ?_
    cases users with
    | error e => trivial
    | ok n =>
      refine Program.Only.bind hids fun id => Program.Only.bind (hclock .universal)
        fun moment => Program.Only.bind (h.bracket fun s => h _) fun accounts => ?_
      cases accounts <;> trivial
  · trivial

theorem createAccount_untracked (h : store.Untracked) (hids : ids.Untracked)
    (hclock : clock.Untracked) (account : Account) :
    (createAccount store ids clock account).Untracked := by
  simp only [createAccount, Program.now, Program.ask, Program.bind_eq, Program.pure_eq_done,
    Program.perform_bind, Program.done_bind]
  refine ⟨trivial, fun now => Program.Only.bind (h _) fun begun => ?_⟩
  cases begun with
  | error e => exact ⟨rfl, fun _ => trivial⟩
  | ok tx =>
    refine Program.Only.bind (insertRows_untracked h hids hclock tx _ account) fun outcome => ?_
    cases outcome with
    | error setback =>
      refine Program.Only.bind (Program.Only.bind (h _) fun answer => ?_) fun failure => trivial
      cases answer <;> exact ⟨rfl, fun _ => trivial⟩
    | ok a =>
      refine Program.Only.bind (h _) fun committed => ?_
      cases committed with
      | error e => trivial
      | ok _ => exact ⟨rfl, fun _ => trivial⟩

/-- The account service on a stack of layers leaves the reports of its calls to others. -/
theorem Service.ofStore_untracked (h : store.Untracked) (hids : ids.Untracked)
    (hclock : clock.Untracked) : (Service.ofStore store ids clock).Untracked where
  create := createAccount_untracked h hids hclock
  list := listAccounts_only trivial fun c _ => h c
  find := findAccount_only trivial fun c _ => h c

end Operations

end UserAccounts
