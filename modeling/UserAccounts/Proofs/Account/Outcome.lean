import UserAccounts.Proofs.Account.Concurrency
import UserAccounts.Proofs.Account.Stacked

/-!
# What comes of an operation on accounts

The operations of the account service fail in few ways, and how an operation ends says what it has
done at the store. On every branch:

* `createAccount_keeps_stage` — a creation that succeeds has committed the writes that add its
  account, and one that fails has committed nothing;
* `createAccount_fails` — it fails as something internal, or as a conflict, but then the username
  was found to be taken and the transaction was rolled back (`Refused`);
* `listAccounts_fails` and `findAccount_fails` — a listing fails as something internal, or as an
  invalid request, but then the store was not called; a search fails as something internal, or
  because there is no such account;
* `listAccounts_reads` and `findAccount_reads` — neither ever writes or commits;
* `Service.ofStore_gives` — on any store, each operation fails in one of a few ways, which are
  listed (`CreationFailure`, `ListingFailure`, `SearchFailure`), and the identifier of a new account
  is one that was given out for it.
-/

namespace UserAccounts

/-! ## Failures -/

theorem Failure.code_make (code : FailureCode) (message : String) :
    (make code message).code = code := by
  unfold make make?
  by_cases h : Text.isBlank message = false
  · rw [dif_pos h]
    rfl
  · rw [dif_neg h]
    rfl

theorem storeFailure_code (action : String) (e : StoreError) :
    (storeFailure action e).code = .internal :=
  Failure.code_make _ _

theorem rollbackFailure_code (cause : Failure) (e : StoreError) :
    (rollbackFailure cause e).code = .internal :=
  storeFailure_code _ e

theorem usernameTaken_code (username : String) : (usernameTaken username).code = .conflict :=
  Failure.code_make _ _

theorem accountMissing_code : accountMissing.code = .notFound :=
  Failure.code_make _ _

/-! ## The stage of a creation -/

/-- What a creation may call for at its stage, with anything else at any time. -/
def stageProtocol : Protocol Stage where
  permits stage e :=
    match e with
    | .store c => stage.Allows c
    | _ => True
  expects := creationProtocol.expects
  after stage e answer :=
    match e, answer with
    | .store c, answer => stage.after c answer
    | _, _ => stage

theorem stageProtocol_ignoresAsides : stageProtocol.IgnoresAsides where
  permits v e he := by
    cases e with
    | store c => cases he
    | _ => trivial
  after v e he answer := by
    cases e with
    | store c => cases he
    | _ => rfl
  expects_request _ := trivial

/-- How the stage of a creation in the end goes with what comes of it: it has committed the writes
that add the account which it returns, or it has committed nothing and fails. -/
def Stage.Yields (stage : Stage) (r : Except Failure Account) : Prop :=
  (∃ tx writes a, stage = .kept tx writes ∧ r = .ok a ∧ a.Insertion writes) ∨
    (stage.Open ∧ ∃ failure, r = .error failure)

theorem createAccount_keeps_stage {database user : String} {ids : Identifiers} {clock : Clock}
    (hids : ids.Quiet) (hclock : clock.Quiet) (account : Account) :
    (createAccount (.direct database user) ids clock account).Keeps stageProtocol
      Stage.Yields .idle := by
  have hkeeps : (createAccount (.direct database user) ids clock account).Keeps creationProtocol
      (Standing.Yields ids) ⟨.idle, []⟩ :=
    createAccount_keeps hids hclock account
  refine (hkeeps.map Standing.stage ?permitted ?expected ?after).mono ?post
  case permitted =>
    intro v e h
    cases e with
    | store c => exact h
    | _ => trivial
  case expected => exact fun _ _ h => h
  case after =>
    intro v e answer
    cases e with
    | store c => rfl
    | _ => rfl
  case post =>
    rintro stage r ⟨v, rfl, hyields⟩
    unfold Standing.Yields at hyields
    cases hstage : v.stage with
    | kept tx writes =>
      rw [hstage] at hyields
      obtain ⟨a, hr, hwrites, -⟩ := hyields
      exact .inl ⟨tx, writes, a, rfl, hr, hwrites⟩
    | _ =>
      rw [hstage] at hyields
      exact .inr ⟨nofun, hyields⟩

/-! ## Refusals -/

/-- The username was found to be taken within a transaction. -/
def FoundTaken (username : String) (tx : Transaction) (calls : List Exchange) : Prop :=
  ∃ (d : Deadline) (p : Prepared) (row : Row),
    ⟨.prepare (some tx) d Statements.usernameExists, .ok p⟩ ∈ calls ∧
    ⟨.queryRow (p.statement (some tx)) d [.text username], .ok (some row)⟩ ∈ calls ∧
    row.boolean 0 = .ok true

/-- The username was found to be taken, and the transaction was rolled back with success. -/
def Refused (username : String) (calls : List Exchange) : Prop :=
  ∃ tx, FoundTaken username tx calls ∧ ⟨.rollback tx, .ok ()⟩ ∈ calls

theorem FoundTaken.mono {username : String} {tx : Transaction} {calls calls' : List Exchange}
    (h : FoundTaken username tx calls) (hsub : calls ⊆ calls') :
    FoundTaken username tx calls' := by
  obtain ⟨d, p, row, hprepare, hquery, hrow⟩ := h
  exact ⟨d, p, row, hsub hprepare, hsub hquery, hrow⟩

/-- A check that says that a username is taken has found it so. -/
theorem StatementUse.foundTaken {username : String} {tx : Transaction} {d : Deadline}
    {check : List Exchange} {found : Except StoreError (Work.row [.text username]).Reply}
    (u : StatementUse (some tx) d Statements.usernameExists (Work.row [.text username]) check found)
    (hc : firstColumn false (·.boolean 0) found = .ok true) : FoundTaken username tx check := by
  cases u with
  | unprepared e => cases hc
  | failed p e closed => cases hc
  | unclosed p reply e => cases hc
  | completed p reply =>
    cases reply with
    | none => cases hc
    | some row => exact ⟨d, p, row, List.mem_cons_self, by simp [Work.exchange], hc⟩

/-- If an outcome is a failure, it is one of a kind. -/
def FailsAs {ε α : Type} (kind : ε → Prop) (outcome : Except ε α) : Prop :=
  ∀ e, outcome = .error e → kind e

theorem FailsAs.ok {ε α : Type} {kind : ε → Prop} (a : α) : FailsAs kind (.ok a) := by
  intro e he
  cases he

theorem FailsAs.error {ε α : Type} {kind : ε → Prop} {e : ε} (h : kind e) :
    FailsAs kind (.error e : Except ε α) := by
  intro e' he
  cases he
  exact h

section Failing

variable {database user : String} {ids : Identifiers} {clock : Clock}

/-- What comes of a program in conversation with the store, when nothing is said of the calls. -/
theorem Program.keeps_conversation {α : Type} (p : Program α) (h : List Exchange) :
    p.Keeps conversation (fun _ _ => True) h :=
  keeps_of_permits (fun _ _ => trivial) p h

/-- Adding the rows of an account fails as something internal, or as a conflict with a username that
was found to be taken. -/
theorem insertRows_fails (hids : ids.Quiet) (hclock : clock.Quiet) (tx : Transaction)
    (d : Deadline) (account : Account) (h : List Exchange) :
    (insertRows (.direct database user) ids clock tx d account).Keeps conversation
      (fun h' => FailsAs fun setback => setback.cause.code = .internal ∨
        (setback.cause.code = .conflict ∧ FoundTaken account.username tx h')) h := by
  simp only [insertRows, Program.bind_eq, Program.pure_eq_done]
  rw [Program.keeps_bind]
  refine Store.keeps_once (w := .row [.text account.username]) fun check found u => ?_
  rcases hc : firstColumn false (·.boolean 0) found with e | (_ | _)
  · exact FailsAs.error (.inl (storeFailure_code _ e))
  · -- On a free username only the store can fail.
    refine hids.keeps_bind fun userId => (hclock .universal).keeps_bind fun userCreatedAt => ?_
    rw [Program.keeps_bind]
    refine (Program.keeps_conversation _ _).mono fun h₁ users _ => ?_
    rcases users with e | _
    · exact FailsAs.error (.inl (storeFailure_code _ e))
    · refine hids.keeps_bind fun id => (hclock .universal).keeps_bind fun createdAt => ?_
      rw [Program.keeps_bind]
      refine (Program.keeps_conversation _ _).mono fun h₂ accounts _ => ?_
      rcases accounts with e | _
      · exact FailsAs.error (.inl (storeFailure_code _ e))
      · exact FailsAs.ok _
  · have htaken := (u.foundTaken hc).mono (List.subset_append_right h check)
    exact FailsAs.error (.inr ⟨usernameTaken_code _, htaken⟩)

/-- A creation fails as something internal, or as a conflict with a username that was found to be
taken, and then its transaction was rolled back. -/
theorem createAccount_fails (hids : ids.Quiet) (hclock : clock.Quiet) (account : Account)
    (h : List Exchange) :
    (createAccount (.direct database user) ids clock account).Keeps conversation
      (fun h' => FailsAs fun failure => failure.code = .internal ∨
        (failure.code = .conflict ∧ Refused account.username h')) h := by
  simp only [createAccount, Program.now, Store.begin, Store.direct, Store.commit, abandon,
    Store.rollback, Program.call, Program.report, Program.ask, Program.bind_eq,
    Program.pure_eq_done, Program.perform_bind, Program.done_bind, Program.keeps_perform]
  refine ⟨trivial, fun now _ => ⟨trivial, fun begun _ => ?_⟩⟩
  cases begun with
  | error e => exact ⟨trivial, fun _ _ => FailsAs.error (.inl (storeFailure_code _ e))⟩
  | ok tx =>
    rw [Program.keeps_bind]
    refine (insertRows_fails hids hclock tx _ account _).mono fun h₁ outcome hfails => ?_
    cases outcome with
    | error setback =>
      refine ⟨trivial, fun answer _ => ?_⟩
      cases answer with
      | error e => exact ⟨trivial, fun _ _ => FailsAs.error (.inl (rollbackFailure_code _ e))⟩
      | ok _ =>
        refine ⟨trivial, fun _ _ => FailsAs.error ?_⟩
        rcases hfails setback rfl with hinternal | ⟨hconflict, htaken⟩
        · exact .inl hinternal
        · refine .inr ⟨hconflict, tx, htaken.mono ?_, ?_⟩
          · exact List.subset_append_left _ _
          · exact List.mem_append_right _ (List.mem_singleton.mpr rfl)
    | ok a =>
      refine ⟨trivial, fun answer _ => ?_⟩
      cases answer with
      | error e => exact FailsAs.error (.inl (storeFailure_code _ e))
      | ok _ => exact ⟨trivial, fun _ _ => FailsAs.ok a⟩

theorem positionValue_error {n : Nat} {failure : Failure} (h : positionValue n = .error failure) :
    failure.code = .invalidRequest := by
  unfold positionValue at h
  split at h
  · cases h
  · cases h
    exact Failure.code_make _ _

/-- A window cannot be bound if one of its positions cannot. -/
theorem Window.exists_position_of_args {w : Window} {failure : Failure}
    (h : w.args = .error failure) : ∃ n, positionValue n = .error failure := by
  unfold args at h
  split at h
  · cases h
    exact ⟨w.offset, by assumption⟩
  · cases h
    exact ⟨w.limit, by assumption⟩
  · cases h
    exact ⟨w.nextOffset, by assumption⟩
  · cases h

theorem Window.args_error {w : Window} {failure : Failure} (h : w.args = .error failure) :
    failure.code = .invalidRequest := by
  obtain ⟨n, hn⟩ := Window.exists_position_of_args h
  exact positionValue_error hn

theorem countValue_error {n : Int64} {failure : Failure} (h : countValue n = .error failure) :
    failure.code = .internal := by
  unfold countValue at h
  split at h
  · cases h
    exact Failure.code_make _ _
  · cases h

/-- A listing fails as something internal, or as an invalid request before the store is called. -/
theorem listAccounts_fails (store : Store) (window : Window) :
    (listAccounts store window).Keeps conversation
      (fun h => FailsAs fun failure => failure.code = .internal ∨
        (failure.code = .invalidRequest ∧ h = [])) [] := by
  simp only [listAccounts, Program.now, Program.ask, Program.bind_eq, Program.pure_eq_done,
    Program.perform_bind, Program.done_bind]
  refine ⟨trivial, fun now _ => ?_⟩
  cases hargs : window.args with
  | error f => exact FailsAs.error (.inr ⟨Window.args_error hargs, rfl⟩)
  | ok args =>
    dsimp only
    rw [Program.keeps_bind]
    refine (Program.keeps_conversation _ _).mono fun h₁ count _ => ?_
    rcases firstColumn 0 (·.integer 0) count with e | n
    · exact FailsAs.error (.inl (storeFailure_code _ e))
    · dsimp only
      rcases htotal : countValue n with f | total
      · exact FailsAs.error (.inl (countValue_error htotal))
      · dsimp only
        rw [Program.keeps_bind]
        refine (Program.keeps_conversation _ _).mono fun h₂ found _ => ?_
        rcases decoding accountsOfRows found with e | accounts
        · exact FailsAs.error (.inl (storeFailure_code _ e))
        · dsimp only
          rw [Program.keeps_bind]
          refine (Program.keeps_conversation _ _).mono fun h₃ more _ => ?_
          rcases firstColumn false (·.boolean 0) more with e | hasNext
          · exact FailsAs.error (.inl (storeFailure_code _ e))
          · exact FailsAs.ok _

/-- A search fails as something internal, or because there is no such account. -/
theorem findAccount_fails (store : Store) (id : Id) :
    (findAccount store id).Keeps conversation
      (fun _ => FailsAs fun failure => failure.code = .internal ∨ failure.code = .notFound) [] := by
  simp only [findAccount, Program.now, Program.ask, Program.bind_eq, Program.pure_eq_done,
    Program.perform_bind, Program.done_bind]
  refine ⟨trivial, fun now _ => ?_⟩
  rw [Program.keeps_bind]
  refine (Program.keeps_conversation _ _).mono fun h₁ found _ => ?_
  rcases found with e | (_ | row)
  · exact FailsAs.error (.inl (storeFailure_code _ e))
  · exact FailsAs.error (.inr accountMissing_code)
  · dsimp only
    rcases Account.ofRow row with e | account
    · exact FailsAs.error (.inl (storeFailure_code _ e))
    · exact FailsAs.ok account

end Failing

/-! ## Reading -/

section Asking

variable {kind : Effect → Prop} {store : Store} {within : Option Transaction} {d : Deadline}
  {query : String}

theorem Store.bracket_only (hcall : ∀ c, c.writes = false → (store.call c).Only kind) {α : Type}
    {work : Statement → Program (Except StoreError α)} (hwork : ∀ s, (work s).Only kind) :
    (store.bracket within d query work).Only kind := by
  have hprepare : (store.prepare within d query).Only kind := by
    refine (hcall (.prepare within d query) rfl).bind fun prepared => ?_
    cases prepared <;> trivial
  refine hprepare.bind fun answer => ?_
  cases answer with
  | error e => trivial
  | ok s => exact (hwork s).bind fun outcome => (hcall (.close s) rfl).bind fun closed => trivial

theorem Store.rowOnce_only (hcall : ∀ c, c.writes = false → (store.call c).Only kind)
    (args : List SqlValue) : (store.rowOnce within d query args).Only kind :=
  bracket_only hcall fun s => hcall (.queryRow s d args) rfl

theorem Store.rowsOnce_only (hcall : ∀ c, c.writes = false → (store.call c).Only kind)
    (args : List SqlValue) : (store.rowsOnce within d query args).Only kind :=
  bracket_only hcall fun s => hcall (.queryRows s d args) rfl

/-- A listing asks for the time, and makes calls that neither write nor commit. -/
theorem listAccounts_only (hnow : kind .now)
    (hcall : ∀ c, c.writes = false → (store.call c).Only kind) (window : Window) :
    (listAccounts store window).Only kind := by
  simp only [listAccounts, Program.now, Program.ask, Program.bind_eq, Program.pure_eq_done,
    Program.perform_bind, Program.done_bind]
  refine ⟨hnow, fun now => ?_⟩
  cases window.args with
  | error f => trivial
  | ok args =>
    refine (Store.rowOnce_only hcall _).bind fun count => ?_
    rcases firstColumn 0 (·.integer 0) count with e | n
    · trivial
    · dsimp only
      rcases countValue n with f | total
      · trivial
      · refine (Store.rowsOnce_only hcall _).bind fun found => ?_
        rcases decoding accountsOfRows found with e | accounts
        · trivial
        · refine (Store.rowOnce_only hcall _).bind fun more => ?_
          rcases firstColumn false (·.boolean 0) more with e | hasNext <;> trivial

/-- A search asks for the time, and makes calls that neither write nor commit. -/
theorem findAccount_only (hnow : kind .now)
    (hcall : ∀ c, c.writes = false → (store.call c).Only kind) (id : Id) :
    (findAccount store id).Only kind := by
  simp only [findAccount, Program.now, Program.ask, Program.bind_eq, Program.pure_eq_done,
    Program.perform_bind, Program.done_bind]
  refine ⟨hnow, fun now => (Store.rowOnce_only hcall _).bind fun found => ?_⟩
  rcases found with e | (_ | row)
  · trivial
  · trivial
  · dsimp only
    rcases Account.ofRow row with e | account <;> trivial

end Asking

/-- An effect that cannot change what is committed. -/
def Effect.Reads (e : Effect) : Prop := ∀ c, e = .store c → c.writes = false

theorem Aside.reads {e : Effect} (he : Aside e) : e.Reads := by
  intro c heq
  rw [heq] at he
  cases he

theorem Effect.now_reads : Effect.now.Reads := Aside.reads rfl

theorem Store.direct_reads {database user : String} (c : Call) (hc : c.writes = false) :
    ((Store.direct database user).call c).Only Effect.Reads :=
  ⟨fun _ heq => Effect.store.inj heq ▸ hc, fun _ => trivial⟩

/-- A listing neither writes nor commits. -/
theorem listAccounts_reads {database user : String} (window : Window) :
    (listAccounts (.direct database user) window).Only Effect.Reads :=
  listAccounts_only Effect.now_reads Store.direct_reads window

/-- A search neither writes nor commits. -/
theorem findAccount_reads {database user : String} (id : Id) :
    (findAccount (.direct database user) id).Only Effect.Reads :=
  findAccount_only Effect.now_reads Store.direct_reads id

/-- The protocol that permits whatever cannot change what is committed. -/
def reading : Protocol Unit where
  permits _ e := e.Reads
  expects _ _ := True
  after _ _ _ := ()

theorem reading_ignoresAsides : reading.IgnoresAsides :=
  ⟨fun _ _ he => he.reads, fun _ _ _ _ => rfl, fun _ => trivial⟩

theorem Program.Only.keeps_reading {α : Type} {p : Program α} (hp : p.Only Effect.Reads) :
    p.Keeps reading (fun _ _ => True) () :=
  (Only.keeps hp (fun _ he => he) fun _ _ _ => rfl).mono fun _ _ _ => trivial

/-! ## Identifiers -/

/-- The protocol that permits everything and counts on identifiers of a kind being given out. -/
def givenIds (good : Id → Prop) : Protocol Unit where
  permits _ _ := True
  expects e answer := ∀ id, Answered.id? ⟨e, answer⟩ = some id → good id
  after _ _ _ := ()

theorem givenIds_ignoresAsides (good : Id → Prop) : (givenIds good).IgnoresAsides :=
  ⟨fun _ _ _ => trivial, fun _ _ _ _ => rfl, fun _ => nofun⟩

/-- Provided that the identifiers that are given out are of a kind, a property holds of whatever
comes of a program. -/
structure Program.Gives {α : Type} (good : Id → Prop) (post : α → Prop) (p : Program α) : Prop where
  keeps : p.Keeps (givenIds good) (fun _ => post) ()

namespace Program

variable {α β : Type} {good : Id → Prop} {post : α → Prop}

theorem Gives.bind {post' : β → Prop} {p : Program α} {f : α → Program β} (hp : p.Gives good post)
    (hf : ∀ a, post a → (f a).Gives good post') : (p.bind f).Gives good post' :=
  ⟨keeps_bind.mpr (hp.keeps.mono fun _ a ha => (hf a ha).keeps)⟩

theorem gives_done {a : α} (h : post a) : (done a).Gives good post := ⟨h⟩

/-- Whatever comes first, it is what comes next that counts. -/
theorem gives_bind {post' : β → Prop} {p : Program α} {f : α → Program β}
    (hf : ∀ a, (f a).Gives good post') : (p.bind f).Gives good post' :=
  Gives.bind ⟨keeps_of_permits (fun _ _ => trivial) p ()⟩ fun a _ => hf a

theorem Gives.mono {post' : α → Prop} {p : Program α} (hp : p.Gives good post)
    (h : ∀ a, post a → post' a) : p.Gives good post' :=
  ⟨hp.keeps.mono fun _ => h⟩

/-- In a run in which the identifiers that are given out are of the kind, the property holds. -/
theorem Gives.run {σ : Type} {p : Program α} (hp : p.Gives good post) (m : Machine σ) {s : σ}
    (hgiven : ∀ x ∈ p.trace m s, ∀ id, Answered.id? x = some id → good id) :
    post (p.run m s).1 :=
  (keeps_run_of_step hp.keeps m (fun x => ∀ id, Answered.id? x = some id → good id)
    (fun _ _ => True) (fun _ _ _ _ _ hkind => ⟨hkind, trivial⟩) hgiven trivial).1

end Program

/-! ## Any store -/

/-- The failures of a creation. -/
inductive CreationFailure : Failure → Prop where
  | store (action : String) (e : StoreError) : CreationFailure (storeFailure action e)
  | taken (username : String) : CreationFailure (usernameTaken username)
  | rollback (cause : Failure) (e : StoreError) : CreationFailure (rollbackFailure cause e)

/-- The failures of a listing. -/
inductive ListingFailure : Failure → Prop where
  | position {n : Nat} {f : Failure} (h : positionValue n = .error f) : ListingFailure f
  | store (action : String) (e : StoreError) : ListingFailure (storeFailure action e)
  | count {n : Int64} {f : Failure} (h : countValue n = .error f) : ListingFailure f

/-- The failures of a search. -/
inductive SearchFailure : Failure → Prop where
  | store (action : String) (e : StoreError) : SearchFailure (storeFailure action e)
  | missing : SearchFailure accountMissing

theorem CreationFailure.code {f : Failure} (h : CreationFailure f) :
    f.code = .internal ∨ f.code = .conflict := by
  cases h with
  | store action e => exact .inl (storeFailure_code action e)
  | taken username => exact .inr (usernameTaken_code username)
  | rollback cause e => exact .inl (rollbackFailure_code cause e)

theorem ListingFailure.code {f : Failure} (h : ListingFailure f) :
    f.code = .internal ∨ f.code = .invalidRequest := by
  cases h with
  | position h => exact .inr (positionValue_error h)
  | store action e => exact .inl (storeFailure_code action e)
  | count h => exact .inl (countValue_error h)

theorem SearchFailure.code {f : Failure} (h : SearchFailure f) :
    f.code = .internal ∨ f.code = .notFound := by
  cases h with
  | store action e => exact .inl (storeFailure_code action e)
  | missing => exact .inr accountMissing_code

/-- Identifiers that are of a kind if those that the world gives out are. -/
def Identifiers.Fit (good : Id → Prop) (ids : Identifiers) : Prop := ids.next.Gives good good

theorem Identifiers.fit_true (ids : Identifiers) : ids.Fit fun _ => True :=
  ⟨Program.keeps_of_permits (fun _ _ => trivial) ids.next ()⟩

theorem Identifiers.fresh_fit (good : Id → Prop) : Identifiers.fresh.Fit good :=
  ⟨⟨trivial, fun id hid => hid id rfl⟩⟩

theorem Identifiers.Fit.logged {good : Id → Prop} {ids : Identifiers} (h : ids.Fit good) :
    ids.logged.Fit good :=
  Program.Gives.bind h fun _ hid => Program.gives_bind fun _ => Program.gives_done hid

/-- An account that comes of something has an identifier of a kind. -/
def Identified {ε : Type} (good : Id → Prop) (outcome : Except ε Account) : Prop :=
  ∀ a, outcome = .ok a → good a.id

section Giving

variable {good : Id → Prop} {store : Store} {ids : Identifiers} {clock : Clock}

theorem Identified.ok {ε : Type} {a : Account} (h : good a.id) :
    Identified good (.ok a : Except ε Account) := by
  intro a' ha
  cases ha
  exact h

theorem Identified.error {ε : Type} (e : ε) : Identified good (.error e) := by
  intro a ha
  cases ha

/-- What may come of a creation: an account with an identifier of a kind, or a failure of a kind. -/
def CreationEnding {ε : Type} (good : Id → Prop) (kind : ε → Prop) (outcome : Except ε Account) :
    Prop :=
  Identified good outcome ∧ FailsAs kind outcome

theorem gives_failure {ε : Type} {kind : ε → Prop} {e : ε} (h : kind e) :
    (Program.done (.error e : Except ε Account)).Gives good (CreationEnding good kind) :=
  Program.gives_done ⟨.error e, .error h⟩

theorem gives_account {ε : Type} {kind : ε → Prop} {a : Account} (h : good a.id) :
    (Program.done (.ok a : Except ε Account)).Gives good (CreationEnding good kind) :=
  Program.gives_done ⟨.ok h, .ok a⟩

theorem insertRows_gives (hids : ids.Fit good) (tx : Transaction) (d : Deadline)
    (account : Account) :
    (insertRows store ids clock tx d account).Gives good <| CreationEnding good fun setback =>
      CreationFailure setback.cause := by
  simp only [insertRows, Program.bind_eq, Program.pure_eq_done]
  refine Program.gives_bind fun check => ?_
  rcases firstColumn false (·.boolean 0) check with e | (_ | _)
  · exact gives_failure (.store _ e)
  · refine Program.gives_bind fun userId => Program.gives_bind fun userCreatedAt => ?_
    refine Program.gives_bind fun users => ?_
    rcases users with e | _
    · exact gives_failure (.store _ e)
    · refine Program.Gives.bind hids fun id hid => Program.gives_bind fun createdAt => ?_
      refine Program.gives_bind fun accounts => ?_
      rcases accounts with e | _
      · exact gives_failure (.store _ e)
      · exact gives_account hid
  · exact gives_failure (.taken _)

/-- A rollback leaves the cause of the setback, or fails itself. -/
theorem abandon_gives (tx : Transaction) {setback : Setback} (h : CreationFailure setback.cause) :
    (abandon store tx setback).Gives good CreationFailure := by
  simp only [abandon, Program.bind_eq, Program.pure_eq_done]
  refine Program.gives_bind fun undone => ?_
  cases undone with
  | error e => exact Program.gives_bind fun _ => Program.gives_done (.rollback _ e)
  | ok _ => exact Program.gives_bind fun _ => Program.gives_done h

/-- The identifier of a new account was given out for it. -/
theorem createAccount_gives (hids : ids.Fit good) (account : Account) :
    (createAccount store ids clock account).Gives good (CreationEnding good CreationFailure) := by
  simp only [createAccount, Program.bind_eq, Program.pure_eq_done]
  refine Program.gives_bind fun now => Program.gives_bind fun begun => ?_
  cases begun with
  | error e =>
    exact Program.gives_bind fun _ => gives_failure (.store _ e)
  | ok tx =>
    refine (insertRows_gives hids tx _ account).bind fun outcome houtcome => ?_
    cases outcome with
    | error setback =>
      exact (abandon_gives tx (houtcome.2 setback rfl)).bind fun f hf => gives_failure hf
    | ok a =>
      refine Program.gives_bind fun committed => ?_
      cases committed with
      | error e => exact gives_failure (.store _ e)
      | ok _ => exact Program.gives_bind fun _ => gives_account (houtcome.1 a rfl)

/-- What may come of a listing: a total of no more than 63 bits, or a failure of a listing. -/
def ListingEnding (outcome : Except Failure Listing) : Prop :=
  FailsAs ListingFailure outcome ∧ ∀ l, outcome = .ok l → l.total ≤ Text.maxSigned64

theorem gives_listingFailure {f : Failure} (h : ListingFailure f) :
    (Program.done (.error f)).Gives good ListingEnding :=
  Program.gives_done ⟨.error h, nofun⟩

theorem countValue_le {n : Int64} {total : Nat} (h : countValue n = .ok total) :
    total ≤ Text.maxSigned64 := by
  unfold countValue at h
  split_ifs at h with hneg
  cases h
  have hle : n.toInt ≤ 2 ^ 63 - 1 := n.toInt_le
  have hmax : Text.maxSigned64 = 2 ^ 63 - 1 := rfl
  omega

theorem listAccounts_gives (window : Window) :
    (listAccounts store window).Gives good ListingEnding := by
  simp only [listAccounts, Program.bind_eq, Program.pure_eq_done]
  refine Program.gives_bind fun now => ?_
  cases hargs : window.args with
  | error f =>
    obtain ⟨n, hn⟩ := Window.exists_position_of_args hargs
    exact gives_listingFailure (.position hn)
  | ok args =>
    refine Program.gives_bind fun count => ?_
    rcases firstColumn 0 (·.integer 0) count with e | n
    · exact gives_listingFailure (.store _ e)
    · dsimp only
      rcases htotal : countValue n with f | total
      · exact gives_listingFailure (.count htotal)
      · refine Program.gives_bind fun found => ?_
        rcases decoding accountsOfRows found with e | accounts
        · exact gives_listingFailure (.store _ e)
        · refine Program.gives_bind fun more => ?_
          rcases firstColumn false (·.boolean 0) more with e | hasNext
          · exact gives_listingFailure (.store _ e)
          · refine Program.gives_done ⟨.ok _, fun l hl => ?_⟩
            cases hl
            exact countValue_le htotal

theorem findAccount_gives (id : Id) :
    (findAccount store id).Gives good (FailsAs SearchFailure) := by
  simp only [findAccount, Program.bind_eq, Program.pure_eq_done]
  refine Program.gives_bind fun now => Program.gives_bind fun found => ?_
  rcases found with e | (_ | row)
  · exact Program.gives_done (.error (.store _ e))
  · exact Program.gives_done (.error .missing)
  · dsimp only
    rcases Account.ofRow row with e | account
    · exact Program.gives_done (.error (.store _ e))
    · exact Program.gives_done (.ok account)

/-- What may come of the operations of a service, whatever the store does. -/
structure Service.Gives (good : Id → Prop) (service : Service) : Prop where
  create (account : Account) :
    (service.create account).Gives good (CreationEnding good CreationFailure)
  list (window : Window) : (service.list window).Gives good ListingEnding
  find (id : Id) : (service.find id).Gives good (FailsAs SearchFailure)

namespace Service

theorem ofStore_gives (store : Store) (clock : Clock) (hids : ids.Fit good) :
    (ofStore store ids clock).Gives good :=
  ⟨createAccount_gives hids, listAccounts_gives, findAccount_gives⟩

theorem reported_gives {α : Type} [Text.Inspect α] {reporter : Clock}
    {operation before : String} {p : Program (Except Failure α)}
    {post : Except Failure α → Prop} (hp : p.Gives good post) :
    (reported reporter operation before p).Gives good post := by
  simp only [reported, Program.timed, Program.bind_eq, Program.pure_eq_done, Program.bind_assoc,
    Program.done_bind]
  refine Program.gives_bind fun start => Program.gives_bind fun started => ?_
  refine hp.bind fun outcome houtcome => ?_
  refine Program.gives_bind fun finished => Program.gives_bind fun stop => ?_
  refine Program.gives_bind fun id => Program.gives_bind fun _ => ?_
  cases outcome with
  | ok a => exact Program.gives_done houtcome
  | error cause => exact Program.gives_bind fun _ => Program.gives_done houtcome

theorem Gives.logged {service : Service} (h : service.Gives good) (reporter : Clock) :
    (service.logged reporter).Gives good :=
  ⟨fun account => reported_gives (h.create account), fun window => reported_gives (h.list window),
    fun id => reported_gives (h.find id)⟩

/-- However a service is put together, no more comes of its operations. -/
theorem stacked_gives (layers : List Layer) (reporters : List Clock) (database user : String)
    (clock : Clock) (hids : ids.Fit good) :
    (stacked layers reporters database user ids clock).Gives good :=
  stacked_induction (ofStore_gives _ clock hids) fun reporter _ _ h => h.logged reporter

/-- However a service is put together, the identifier of a new account was given out for it. -/
theorem stacked_create_gives (layers : List Layer) (reporters : List Clock)
    (database user : String) (clock : Clock) (hids : ids.Fit good) (account : Account) :
    ((stacked layers reporters database user ids clock).create account).Gives good
      (Identified good) :=
  ((stacked_gives layers reporters database user clock hids).create account).mono fun _ h => h.1

end Service

end Giving

end UserAccounts
