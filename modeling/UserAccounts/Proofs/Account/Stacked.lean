import UserAccounts.Proofs.Store.Visits

/-!
# The account service on a stack of layers

The account service may work on a stack of layers, and its own calls may be reported. Neither shows
in what it does: `Service.stacked_decoratesBy` says that each of its operations is what it would be
on the store itself, with effects of the layers and reports put in between, and
`Service.stacked_decorates` that these never call the store if the layers do not.

For this, `createAccount_on`, `listAccounts_on` and `findAccount_on` say that the operations use the
store that they are given and no other.
-/

namespace UserAccounts

namespace Store

variable {α : Type} {upper lower : Store} {within : Option Transaction} {d : Deadline}
  {query : String}

theorem bracket_on (work : Statement → Program (Except StoreError α)) :
    (upper.bracket within d query work).on lower =
      (upper.on lower).bracket within d query fun statement => (work statement).on lower := by
  simp only [bracket, prepare, close, Program.bind_eq, Program.pure_eq_done, Program.on_bind,
    Program.bind_assoc]
  refine congrArg (Program.bind _) (funext fun answer => ?_)
  cases answer with
  | error e => rfl
  | ok p =>
    simp only [Program.on, Program.done_bind, Program.on_bind]
    rfl

theorem rowOnce_on (args : List SqlValue) :
    (upper.rowOnce within d query args).on lower = (upper.on lower).rowOnce within d query args :=
  bracket_on _

theorem rowsOnce_on (args : List SqlValue) :
    (upper.rowsOnce within d query args).on lower = (upper.on lower).rowsOnce within d query args :=
  bracket_on _

theorem execOnce_on (args : List SqlValue) :
    (upper.execOnce within d query args).on lower = (upper.on lower).execOnce within d query args :=
  bracket_on _

end Store

section Service

variable {upper lower : Store} {ids : Identifiers} {clock : Clock}

theorem insertRows_on (hids : ids.Quiet) (hclock : clock.Quiet) (tx : Transaction) (d : Deadline)
    (account : Account) :
    (insertRows upper ids clock tx d account).on lower =
      insertRows (upper.on lower) ids clock tx d account := by
  have hnext : ids.next.on lower = ids.next := Program.Quiet.on_eq hids
  have hread : clock.universal.on lower = clock.universal :=
    Program.Quiet.on_eq (hclock .universal)
  simp only [insertRows, Program.bind_eq, Program.pure_eq_done, Program.on_bind, Store.rowOnce_on]
  refine congrArg (Program.bind _) (funext fun check => ?_)
  rcases firstColumn false (·.boolean 0) check with e | (_ | _)
  · rfl
  · simp only [Program.on_bind, hnext, hread, Store.execOnce_on]
    refine congrArg (Program.bind _) (funext fun userId => ?_)
    refine congrArg (Program.bind _) (funext fun userCreatedAt => ?_)
    refine congrArg (Program.bind _) (funext fun users => ?_)
    rcases users with e | _
    · rfl
    · simp only [Program.on_bind, hnext, hread, Store.execOnce_on]
      refine congrArg (Program.bind _) (funext fun id => ?_)
      refine congrArg (Program.bind _) (funext fun createdAt => ?_)
      refine congrArg (Program.bind _) (funext fun accounts => ?_)
      rcases accounts with e | _ <;> rfl
  · rfl

theorem abandon_on (tx : Transaction) (setback : Setback) :
    (abandon upper tx setback).on lower = abandon (upper.on lower) tx setback := by
  simp only [abandon, Store.rollback, Program.bind_eq, Program.pure_eq_done, Program.on_bind]
  refine congrArg (Program.bind _) (funext fun answer => ?_)
  cases answer with
  | error e => rfl
  | ok _ => rfl

theorem createAccount_on (hids : ids.Quiet) (hclock : clock.Quiet) (account : Account) :
    (createAccount upper ids clock account).on lower =
      createAccount (upper.on lower) ids clock account := by
  simp only [createAccount, Store.begin, Store.commit, Program.bind_eq, Program.pure_eq_done,
    Program.on_bind]
  refine congrArg (Program.bind _) (funext fun now => ?_)
  refine congrArg (Program.bind _) (funext fun begun => ?_)
  cases begun with
  | error e => rfl
  | ok tx =>
    simp only [Program.on_bind, insertRows_on hids hclock]
    refine congrArg (Program.bind _) (funext fun inserted => ?_)
    cases inserted with
    | error setback =>
      simp only [Program.on_bind, abandon_on]
      rfl
    | ok account' =>
      simp only [Program.on_bind]
      refine congrArg (Program.bind _) (funext fun committed => ?_)
      cases committed <;> rfl

theorem listAccounts_on (window : Window) :
    (listAccounts upper window).on lower = listAccounts (upper.on lower) window := by
  simp only [listAccounts, Program.bind_eq, Program.pure_eq_done, Program.on_bind]
  refine congrArg (Program.bind _) (funext fun now => ?_)
  cases window.args with
  | error f => rfl
  | ok args =>
    simp only [Program.on_bind, Store.rowOnce_on]
    refine congrArg (Program.bind _) (funext fun count => ?_)
    rcases firstColumn 0 (·.integer 0) count with e | n
    · rfl
    · dsimp only
      rcases countValue n with f | total
      · rfl
      · simp only [Program.on_bind, Store.rowsOnce_on]
        refine congrArg (Program.bind _) (funext fun found => ?_)
        rcases decoding accountsOfRows found with e | accounts
        · rfl
        · simp only [Program.on_bind, Store.rowOnce_on]
          refine congrArg (Program.bind _) (funext fun more => ?_)
          rcases firstColumn false (·.boolean 0) more with e | hasNext <;> rfl

theorem findAccount_on (id : Id) :
    (findAccount upper id).on lower = findAccount (upper.on lower) id := by
  simp only [findAccount, Program.bind_eq, Program.pure_eq_done, Program.on_bind, Store.rowOnce_on]
  refine congrArg (Program.bind _) (funext fun now => ?_)
  refine congrArg (Program.bind _) (funext fun found => ?_)
  rcases found with e | (_ | row)
  · rfl
  · rfl
  · dsimp only
    cases Account.ofRow row <;> rfl

end Service

/-! ## Decorations -/

/-- The effects by which the decorations of a service make themselves felt. -/
abbrev Aside (e : Effect) : Prop := e.isCall = false

/-- A protocol that is about calls to the store and nothing else. -/
structure Protocol.IgnoresAsides {V : Type} (P : Protocol V) : Prop where
  permits : ∀ v e, Aside e → P.permits v e
  after : ∀ v e, Aside e → ∀ answer, P.after v e answer = v
  expects_request : ∀ id : RequestId, P.expects .currentRequest (some id)

theorem Protocol.IgnoresAsides.both {V W : Type} {P : Protocol V} {Q : Protocol W}
    (hP : P.IgnoresAsides) (hQ : Q.IgnoresAsides) : (P.both Q).IgnoresAsides where
  permits v e he := ⟨hP.permits v.1 e he, hQ.permits v.2 e he⟩
  after v e he answer := Prod.ext (hP.after v.1 e he answer) (hQ.after v.2 e he answer)
  expects_request id := ⟨hP.expects_request id, hQ.expects_request id⟩

theorem conversation_ignoresAsides : conversation.IgnoresAsides where
  permits _ _ _ := trivial
  after _ _ he answer := recordExchange_of_not_call he answer
  expects_request _ := trivial

/-- What a program keeps to in its calls, it keeps to with asides put in between. -/
theorem Annotates.keeps_asides {V α : Type} {P : Protocol V} (hP : P.IgnoresAsides)
    {post : V → α → Prop} {p q : Program α} (h : Annotates Aside p q) {v : V}
    (hp : p.Keeps P post v) : q.Keeps P post v :=
  h.keeps hP.permits hP.after hp

/-- A program at work on a store that annotates bare calls is annotated by them. -/
theorem Annotates.on {aside : Effect → Prop} {α : Type} {store : Store}
    (hstore : ∀ c, Annotates aside (Program.call c) (store.call c)) (p : Program α) :
    Annotates aside p (p.on store) := by
  induction p with
  | done a => exact .done a
  | perform e next ih =>
    cases e with
    | store c => exact (hstore c).bind ih
    | _ => exact .shared ih

/-- A service that does what another does, with effects of a kind put in between. -/
structure Service.DecoratesBy (aside : Effect → Prop) (plain decorated : Service) : Prop where
  create : ∀ account, Annotates aside (plain.create account) (decorated.create account)
  list : ∀ window, Annotates aside (plain.list window) (decorated.list window)
  find : ∀ id, Annotates aside (plain.find id) (decorated.find id)

/-- A service that does what another does, with effects put in between that are no calls to the
store. -/
abbrev Service.Decorates (plain decorated : Service) : Prop :=
  Service.DecoratesBy Aside plain decorated

namespace Service

variable {aside : Effect → Prop}

theorem DecoratesBy.trans {a b c : Service} (hab : DecoratesBy aside a b)
    (hbc : DecoratesBy aside b c) : DecoratesBy aside a c where
  create account := (hab.create account).trans (hbc.create account)
  list window := (hab.list window).trans (hbc.list window)
  find id := (hab.find id).trans (hbc.find id)

/-- Reporting a call to the service leaves its outcome alone. -/
theorem reported_annotates {α : Type} [Text.Inspect α] {clock : Clock}
    (hclock : (Layer.logged clock).Asides aside) (hrequest : aside .currentRequest)
    (operation before : String) (p : Program (Except Failure α)) :
    Annotates aside p (reported clock operation before p) := by
  obtain ⟨hnow, hreport, hread⟩ := hclock
  simp only [reported, Program.timed, Program.now, Program.currentRequest, Program.report,
    Program.ask, Program.bind_eq, Program.pure_eq_done, Program.bind_assoc, Program.perform_bind,
    Program.done_bind]
  refine .before (hread .universal) fun start => .aside hnow fun started => .after fun outcome =>
    .aside hnow fun finished => .before (hread .universal) fun stop => .aside hrequest fun id =>
    .aside (hreport _) fun _ => ?_
  cases outcome with
  | ok a => exact .done _
  | error cause => exact .aside (hreport _) fun _ => .done _

theorem logged_decoratesBy {clock : Clock} (hclock : (Layer.logged clock).Asides aside)
    (hrequest : aside .currentRequest) (service : Service) :
    DecoratesBy aside service (service.logged clock) where
  create _ := reported_annotates hclock hrequest _ _ _
  list _ := reported_annotates hclock hrequest _ _ _
  find _ := reported_annotates hclock hrequest _ _ _

/-- The account service as it is put together: over a stack of layers over a store, with its own
calls reported any number of times. -/
def stacked (layers : List Layer) (reporters : List Clock) (database user : String)
    (ids : Identifiers) (clock : Clock) : Service :=
  reporters.foldl (fun service reporter => service.logged reporter)
    (.ofStore (Layer.applyAll layers (.direct database user)) ids clock)

variable {layers : List Layer} {reporters : List Clock} {ids : Identifiers} {clock : Clock}

/-- What holds of the service on a stack and is kept by reporting its calls holds of a service
however it is put together. -/
theorem stacked_induction {P : Service → Prop} {database user : String}
    (hbase : P (.ofStore (Layer.applyAll layers (.direct database user)) ids clock))
    (hlogged : ∀ reporter ∈ reporters, ∀ service, P service → P (service.logged reporter)) :
    P (stacked layers reporters database user ids clock) := by
  unfold stacked
  generalize Service.ofStore (Layer.applyAll layers (.direct database user)) ids clock = service
    at hbase ⊢
  induction reporters generalizing service with
  | nil => exact hbase
  | cons reporter rest ih =>
    obtain ⟨hreporter, hrest⟩ := List.forall_mem_cons.mp hlogged
    exact ih hrest _ (hreporter service hbase)

theorem ofStore_decoratesBy (hlayers : ∀ layer ∈ layers, layer.Asides aside) (hids : ids.Quiet)
    (hclock : clock.Quiet) (database user : String) :
    DecoratesBy aside (.ofStore (.direct database user) ids clock)
      (.ofStore (Layer.applyAll layers (.direct database user)) ids clock) := by
  have hname := Layer.identity_applyAll layers (.direct database user)
  have hcalls : ∀ c, Annotates aside (Program.call c)
      ((Layer.applyAll layers (.direct database user)).call c) :=
    fun c => Layer.applyAll_annotates hlayers (.direct database user) c
  -- On the stack each operation is the one on the store itself, with the calls made on the stack.
  have hself := Store.direct_on (Layer.applyAll layers (.direct database user))
  rw [hname.1, hname.2] at hself
  refine ⟨fun account => ?_, fun window => ?_, fun id => ?_⟩
  · have h := Annotates.on hcalls (createAccount (.direct database user) ids clock account)
    rw [createAccount_on hids hclock] at h
    exact hself ▸ h
  · have h := Annotates.on hcalls (listAccounts (.direct database user) window)
    rw [listAccounts_on] at h
    exact hself ▸ h
  · have h := Annotates.on hcalls (findAccount (.direct database user) id)
    rw [findAccount_on] at h
    exact hself ▸ h

/-- However a service is put together, its operations are those on the store itself, with the
effects put in between that its layers and reports ask for. -/
theorem stacked_decoratesBy (hlayers : ∀ layer ∈ layers, layer.Asides aside)
    (hreporters : ∀ reporter ∈ reporters, (Layer.logged reporter).Asides aside)
    (hrequest : aside .currentRequest) (hids : ids.Quiet) (hclock : clock.Quiet)
    (database user : String) :
    DecoratesBy aside (.ofStore (.direct database user) ids clock)
      (stacked layers reporters database user ids clock) := by
  refine stacked_induction (ofStore_decoratesBy hlayers hids hclock database user) ?_
  intro reporter hreporter service hservice
  exact hservice.trans (logged_decoratesBy (hreporters reporter hreporter) hrequest service)

/-- However a service is put together, its operations are those on the store itself, with effects
put in between that are no calls to the store. -/
theorem stacked_decorates (hlayers : ∀ layer ∈ layers, layer.Quiet)
    (hreporters : ∀ reporter ∈ reporters, reporter.Quiet) (hids : ids.Quiet)
    (hclock : clock.Quiet) (database user : String) :
    Decorates (.ofStore (.direct database user) ids clock)
      (stacked layers reporters database user ids clock) :=
  stacked_decoratesBy hlayers
    (fun reporter hreporter => Layer.logged_quiet (hreporters reporter hreporter)) rfl hids hclock
    database user

end Service

end UserAccounts
