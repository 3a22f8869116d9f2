import UserAccounts.Proofs.Store.Alike

/-!
# Failures of the store as callers see them

A failure of the store ends up in the message of an internal failure, or among its details if a
rollback has failed after it. Nothing else depends on what it says: `Service.stacked_discreet` says
that in two runs that differ in failures of the store, each operation of the account service comes
to the same, or fails in both of them, and then with failures that differ only if both are internal.
-/

namespace UserAccounts

/-- Two failures that are the same for whoever is told nothing about internal ones. -/
def Failure.Alike (f f' : Failure) : Prop :=
  f = f' ∨ f.code = .internal ∧ f'.code = .internal

theorem Failure.Alike.refl (f : Failure) : f.Alike f := .inl rfl

theorem storeFailure_alike (action : String) (e e' : StoreError) :
    (storeFailure action e).Alike (storeFailure action e') :=
  .inr ⟨storeFailure_code action e, storeFailure_code action e'⟩

theorem rollbackFailure_alike (cause cause' : Failure) (e e' : StoreError) :
    (rollbackFailure cause e).Alike (rollbackFailure cause' e') :=
  .inr ⟨rollbackFailure_code cause e, rollbackFailure_code cause' e'⟩

/-- Two outcomes of an operation that are the same for whoever is told nothing about internal
failures. -/
abbrev SameOutside {α : Type} : Except Failure α → Except Failure α → Prop :=
  Agree Failure.Alike

/-- Two outcomes within a transaction that are the same but for what internal failures say. -/
abbrev SameSetback {α : Type} : Except Setback α → Except Setback α → Prop :=
  Agree fun s s' => s.cause.Alike s'.cause

theorem closing_same {α : Type} {outcome outcome' : Except StoreError α}
    {closed closed' : Except StoreError Unit} (h : SameButFailure outcome outcome')
    (hclosed : SameButFailure closed closed') :
    SameButFailure (closing outcome closed) (closing outcome' closed') := by
  cases h with
  | error _ => exact .error trivial
  | ok a =>
    cases hclosed with
    | ok _ => exact .ok a
    | error _ => exact .error trivial

theorem firstColumn_same {α : Type} (absent : α) (read : Row → Except StoreError α)
    {found found' : Except StoreError (Option Row)} (h : SameButFailure found found') :
    SameButFailure (firstColumn absent read found) (firstColumn absent read found') := by
  cases h with
  | ok row => exact .refl (fun _ => trivial) _
  | error _ => exact .error trivial

theorem decoding_same {α β : Type} (decode : α → Except StoreError β)
    {found found' : Except StoreError α} (h : SameButFailure found found') :
    SameButFailure (decoding decode found) (decoding decode found') := by
  cases h with
  | ok a => exact .refl (fun _ => trivial) _
  | error _ => exact .error trivial

namespace Store

variable {store : Store} (hstore : store.Blind) (within : Option Transaction) (d : Deadline)
  (query : String)

include hstore

theorem bracket_alike {α : Type} {work : Statement → Program (Except StoreError α)}
    (hwork : ∀ statement, Program.Alike SameButFailure (work statement) (work statement)) :
    Program.Alike SameButFailure (store.bracket within d query work)
      (store.bracket within d query work) := by
  simp only [bracket, prepare, Program.bind_eq, Program.pure_eq_done, Program.bind_assoc]
  refine (hstore _).bind fun prepared prepared' hprepared => ?_
  cases hprepared with
  | error _ => exact .done (.error trivial)
  | ok p =>
    refine (hwork _).bind fun outcome outcome' houtcome => ?_
    exact (hstore _).bind fun closed closed' hclosed => .done (closing_same houtcome hclosed)

theorem execOnce_alike (args : List SqlValue) :
    Program.Alike SameButFailure (store.execOnce within d query args)
      (store.execOnce within d query args) :=
  bracket_alike hstore within d query fun _ => hstore (.exec _ d args)

theorem rowOnce_alike (args : List SqlValue) :
    Program.Alike SameButFailure (store.rowOnce within d query args)
      (store.rowOnce within d query args) :=
  bracket_alike hstore within d query fun _ => hstore (.queryRow _ d args)

theorem rowsOnce_alike (args : List SqlValue) :
    Program.Alike SameButFailure (store.rowsOnce within d query args)
      (store.rowsOnce within d query args) :=
  bracket_alike hstore within d query fun _ => hstore (.queryRows _ d args)

end Store

section Operations

variable {store : Store} {ids : Identifiers} {clock : Clock}

theorem insertRows_alike (hstore : store.Blind) (hids : ids.Quiet) (hclock : clock.Quiet)
    (tx : Transaction) (d : Deadline) (account : Account) :
    Program.Alike SameSetback (insertRows store ids clock tx d account)
      (insertRows store ids clock tx d account) := by
  simp only [insertRows, Program.bind_eq, Program.pure_eq_done]
  refine (Store.rowOnce_alike hstore _ _ _ _).bind fun check check' hcheck => ?_
  have htaken := firstColumn_same false (·.boolean 0) hcheck
  generalize firstColumn false (·.boolean 0) check = taken at htaken ⊢
  generalize firstColumn false (·.boolean 0) check' = taken' at htaken ⊢
  cases htaken with
  | error _ => exact .done (.error (storeFailure_alike _ _ _))
  | ok taken =>
    cases taken with
    | true => exact .done (.error (.refl _))
    | false =>
      refine hids.alike_bind fun userId => (hclock .universal).alike_bind fun userCreatedAt => ?_
      refine (Store.execOnce_alike hstore _ _ _ _).bind fun users users' husers => ?_
      cases husers with
      | error _ => exact .done (.error (storeFailure_alike _ _ _))
      | ok _ =>
        refine hids.alike_bind fun id => (hclock .universal).alike_bind fun createdAt => ?_
        refine (Store.execOnce_alike hstore _ _ _ _).bind fun accounts accounts' haccounts => ?_
        cases haccounts with
        | error _ => exact .done (.error (storeFailure_alike _ _ _))
        | ok _ => exact .done (.ok _)

/-- After a rollback the setback remains; after a rollback that fails, an internal failure. -/
theorem abandon_alike (hstore : store.Blind) (tx : Transaction) {setback setback' : Setback}
    (h : setback.cause.Alike setback'.cause) :
    Program.Alike Failure.Alike (abandon store tx setback) (abandon store tx setback') := by
  simp only [abandon, Program.bind_eq, Program.pure_eq_done]
  refine (hstore _).bind fun answer answer' hanswer => ?_
  cases hanswer with
  | ok _ => exact .report (.done h)
  | error _ => exact .report (.done (rollbackFailure_alike _ _ _ _))

theorem createAccount_alike (hstore : store.Blind) (hids : ids.Quiet) (hclock : clock.Quiet)
    (account : Account) :
    Program.Alike SameOutside (createAccount store ids clock account)
      (createAccount store ids clock account) := by
  simp only [createAccount, Program.bind_eq, Program.pure_eq_done]
  refine .shared fun now _ hnow => ?_
  cases hnow
  refine (hstore _).bind fun begun begun' hbegun => ?_
  cases hbegun with
  | error _ => exact .report (.done (.error (storeFailure_alike _ _ _)))
  | ok tx =>
    refine (insertRows_alike hstore hids hclock tx _ account).bind fun inserted inserted' h => ?_
    cases h with
    | error hcause =>
      exact (abandon_alike hstore tx hcause).bind fun f f' hf => .done (.error hf)
    | ok a =>
      refine (hstore _).bind fun committed committed' hcommitted => ?_
      cases hcommitted with
      | error _ => exact .done (.error (storeFailure_alike _ _ _))
      | ok _ => exact .report (.done (.ok a))

theorem listAccounts_alike (hstore : store.Blind) (window : Window) :
    Program.Alike SameOutside (listAccounts store window) (listAccounts store window) := by
  simp only [listAccounts, Program.bind_eq, Program.pure_eq_done]
  refine .shared fun now _ hnow => ?_
  cases hnow
  cases window.args with
  | error f => exact .done (.error (.refl f))
  | ok args =>
    refine (Store.rowOnce_alike hstore _ _ _ _).bind fun count count' hcount => ?_
    have htotal := firstColumn_same 0 (·.integer 0) hcount
    generalize firstColumn 0 (·.integer 0) count = total at htotal ⊢
    generalize firstColumn 0 (·.integer 0) count' = total' at htotal ⊢
    cases htotal with
    | error _ => exact .done (.error (storeFailure_alike _ _ _))
    | ok n =>
      dsimp only
      cases countValue n with
      | error f => exact .done (.error (.refl f))
      | ok total =>
        refine (Store.rowsOnce_alike hstore _ _ _ _).bind fun rows rows' hrows => ?_
        have haccounts := decoding_same accountsOfRows hrows
        generalize decoding accountsOfRows rows = accounts at haccounts ⊢
        generalize decoding accountsOfRows rows' = accounts' at haccounts ⊢
        cases haccounts with
        | error _ => exact .done (.error (storeFailure_alike _ _ _))
        | ok accounts =>
          refine (Store.rowOnce_alike hstore _ _ _ _).bind fun more more' hmore => ?_
          have hnext := firstColumn_same false (·.boolean 0) hmore
          generalize firstColumn false (·.boolean 0) more = hasNext at hnext ⊢
          generalize firstColumn false (·.boolean 0) more' = hasNext' at hnext ⊢
          cases hnext with
          | error _ => exact .done (.error (storeFailure_alike _ _ _))
          | ok hasNext => exact .done (.ok _)

theorem findAccount_alike (hstore : store.Blind) (id : Id) :
    Program.Alike SameOutside (findAccount store id) (findAccount store id) := by
  simp only [findAccount, Program.bind_eq, Program.pure_eq_done]
  refine .shared fun now _ hnow => ?_
  cases hnow
  refine (Store.rowOnce_alike hstore _ _ _ _).bind fun found found' hfound => ?_
  cases hfound with
  | error _ => exact .done (.error (storeFailure_alike _ _ _))
  | ok row =>
    cases row with
    | none => exact .done (.error (.refl _))
    | some row =>
      dsimp only
      cases Account.ofRow row with
      | error e => exact .done (.error (.refl _))
      | ok account => exact .done (.ok account)

end Operations

namespace Service

/-- A service that says nothing about failures of its store but within internal failures. -/
structure Discreet (service : Service) : Prop where
  create : ∀ account, Program.Alike SameOutside (service.create account) (service.create account)
  list : ∀ window, Program.Alike SameOutside (service.list window) (service.list window)
  find : ∀ id, Program.Alike SameOutside (service.find id) (service.find id)

/-- Reporting a call says everything in the report, and nothing in the outcome. -/
theorem reported_alike {α : Type} [Text.Inspect α] {clock : Clock} (hclock : clock.Quiet)
    (operation before : String) {p : Program (Except Failure α)} (hp : p.Alike SameOutside p) :
    Program.Alike SameOutside (reported clock operation before p)
      (reported clock operation before p) := by
  simp only [reported, Program.bind_eq, Program.pure_eq_done]
  refine (hp.timed hclock).bind ?_
  rintro ⟨outcome, timing⟩ ⟨outcome', _⟩ ⟨houtcome, rfl⟩
  refine .shared fun id _ hid => ?_
  cases hid
  refine .report ?_
  cases houtcome with
  | ok a => exact .done (.ok a)
  | error h => exact .report (.done (.error h))

theorem Discreet.logged {service : Service} (h : service.Discreet) {clock : Clock}
    (hclock : clock.Quiet) : (service.logged clock).Discreet where
  create account := reported_alike hclock _ _ (h.create account)
  list window := reported_alike hclock _ _ (h.list window)
  find id := reported_alike hclock _ _ (h.find id)

/-- However a service is put together, it says nothing about failures of its store but within
internal failures. -/
theorem stacked_discreet {layers : List Layer} {reporters : List Clock} {ids : Identifiers}
    {clock : Clock} (hlayers : ∀ layer ∈ layers, layer.Quiet)
    (hreporters : ∀ reporter ∈ reporters, reporter.Quiet) (hids : ids.Quiet)
    (hclock : clock.Quiet) (database user : String) :
    (stacked layers reporters database user ids clock).Discreet := by
  have hstore := Layer.applyAll_blind hlayers (Store.direct_blind database user)
  refine stacked_induction ⟨createAccount_alike hstore hids hclock, listAccounts_alike hstore,
    findAccount_alike hstore⟩ ?_
  intro reporter hreporter service hservice
  exact hservice.logged (hreporters reporter hreporter)

end Service

end UserAccounts
