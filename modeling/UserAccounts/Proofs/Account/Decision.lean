import UserAccounts.Proofs.Account.Outcome

/-!
# What decides the outcome of an operation

An operation on accounts takes its steps one after the other until the first of them fails, and that
one decides the outcome. `Step.Ends` says how a single step ends, whatever the store answers: with
the failure to prepare its statement, else with that of running it, else with that of closing it,
else with what is read from its reply. From the steps the relations `ListingDecision`,
`SearchDecision` and `CreationDecision` say, of each operation, which calls are made and what comes
of them, the failure spelled out to its message and details.

`Service.stacked_decides` says that this is how the operations go, whatever lies between the service
and the store.
-/

namespace UserAccounts

/-! ## What a failure says -/

theorem Text.isBlank_append (s t : String) : isBlank (s ++ t) = (isBlank s && isBlank t) := by
  simp [isBlank]

/-- The parts of a failure. -/
structure Failure.Tells (f : Failure) (code : FailureCode) (message : String)
    (details : Option Json.Value) : Prop where
  code_eq : f.code = code
  message_eq : f.message = message
  details_eq : f.details = details

theorem Failure.make_tells (code : FailureCode) {message : String}
    (h : Text.isBlank message = false) : (make code message).Tells code message none := by
  have hmake : make code message = ⟨code, message, none, h⟩ := by
    simp only [make, make?, dif_pos h, Option.getD_some]
  rw [hmake]
  exact ⟨rfl, rfl, rfl⟩

theorem Failure.Tells.withDetails {f : Failure} {code : FailureCode} {message : String}
    {details : Option Json.Value} (h : f.Tells code message details) (new : Json.Value) :
    (f.withDetails new).Tells code message (some new) :=
  ⟨h.code_eq, h.message_eq, rfl⟩

/-- What is said of a failure of the store during some action. -/
def StoreFailed (action : String) (e : StoreError) (f : Failure) : Prop :=
  f.Tells .internal ("failed to " ++ action ++ ": " ++ e.message) none

theorem storeFailure_tells (action : String) (e : StoreError) :
    StoreFailed action e (storeFailure action e) := by
  have hword : Text.isBlank "failed to " = false := by decide
  refine Failure.make_tells .internal ?_
  simp only [Text.isBlank_append, hword, Bool.false_and]

/-- What is said of a username that is taken. -/
def TellsTaken (username : String) (f : Failure) : Prop :=
  f.Tells .conflict ("user account with username \"" ++ username ++ "\" already exists")
    (some (.object [("username", .string username)]))

theorem usernameTaken_tells (username : String) : TellsTaken username (usernameTaken username) := by
  have hword : Text.isBlank "user account with username \"" = false := by decide
  refine (Failure.make_tells .conflict ?_).withDetails _
  simp only [Text.isBlank_append, hword, Bool.false_and]

/-- What is said of a rollback that failed after something else had: of that, code and message are
kept among the details, and nothing else. -/
def TellsNotRolledBack (cause : Failure) (e : StoreError) (f : Failure) : Prop :=
  f.Tells .internal ("failed to roll back user account creation: " ++ e.message)
    (some (.object [("cause", .object
      [("code", .string cause.code.name), ("message", .string cause.message)])]))

theorem rollbackFailure_tells (cause : Failure) (e : StoreError) :
    TellsNotRolledBack cause e (rollbackFailure cause e) :=
  (storeFailure_tells "roll back user account creation" e).withDetails _

theorem accountMissing_tells : accountMissing.Tells .notFound "user account does not exist" none :=
  Failure.make_tells .notFound
    (show Text.isBlank "user account does not exist" = false by decide)

/-! ## Steps -/

/-- A step of an operation: what it is called, the statement that it uses and for what, and how it
reads the reply. -/
structure Step (β : Type) where
  action : String
  query : String
  work : Work
  read : work.Reply → Except StoreError β

namespace Step

variable {β : Type} {within : Option Transaction} {d : Deadline} {calls : List Exchange}

/-- The calls that a step takes, and how it ends. The reply is read only if the statement was
prepared, run and closed without a failure; of several failures of these the first counts. -/
def Ends (step : Step β) (within : Option Transaction) (d : Deadline) (calls : List Exchange)
    (outcome : Except StoreError β) : Prop :=
  ∃ reply, StatementUse within d step.query step.work calls reply ∧
    decoding step.read reply = outcome

/-- A step that reads the first row of a result, if there is one. -/
def ofRow (action query : String) (args : List SqlValue) (absent : β)
    (read : Row → Except StoreError β) : Step β :=
  ⟨action, query, .row args, fun found => firstColumn absent read (.ok found)⟩

theorem ofRow_ends {action query : String} {args : List SqlValue} {absent : β}
    {read : Row → Except StoreError β} {found : Except StoreError (Work.row args).Reply}
    (use : StatementUse within d query (.row args) calls found) :
    (ofRow action query args absent read).Ends within d calls (firstColumn absent read found) := by
  refine ⟨found, use, ?_⟩
  cases found <;> rfl

/-- Make sure that a username is free. -/
def checkUsername (username : String) : Step Bool :=
  .ofRow "check username" Statements.usernameExists [.text username] false (·.boolean 0)

/-- Add a user. -/
def insertUser (u : User) : Step Nat :=
  ⟨"insert user", Statements.insertUser, .exec u.insertArgs, .ok⟩

/-- Add an account. -/
def insertAccount (a : Account) : Step Nat :=
  ⟨"insert user account", Statements.insertAccount, .exec a.insertArgs, .ok⟩

/-- Count the accounts. -/
def count : Step Int64 :=
  .ofRow "count user accounts" Statements.countAccounts [] 0 (·.integer 0)

/-- Find the accounts of a page. -/
def page (args : ListingArgs) : Step (List Account) :=
  ⟨"find user accounts", Statements.findAccounts, .rows [args.offset, args.limit], accountsOfRows⟩

/-- See whether there are accounts after a page. -/
def probe (args : ListingArgs) : Step Bool :=
  .ofRow "probe next page" Statements.hasAccountsAfter [args.next] false (·.boolean 0)

/-- Look for an account. -/
def search (id : Id) : Step (Option Row) :=
  ⟨"find user account", Statements.findAccountById, .row [.text id.text], .ok⟩

/-- The failure of a step, given that of the store. -/
def Failed (step : Step β) (e : StoreError) (f : Failure) : Prop := StoreFailed step.action e f

theorem storeFailure_failed (step : Step β) (e : StoreError) :
    step.Failed e (storeFailure step.action e) :=
  storeFailure_tells step.action e

end Step

/-! ## Listings -/

/-- The calls of a listing, and what comes of it. -/
inductive ListingDecision (w : Window) : List Exchange → Except Failure Listing → Prop
  /-- A position of the page cannot be bound to a statement: its start, its size or its end. -/
  | unrepresentable {n : Nat} {f : Failure}
      (first : [w.offset, w.limit, w.nextOffset].find? (Text.maxSigned64 < ·) = some n)
      (told : f.Tells .invalidRequest
        ("pagination value " ++ Text.natural n ++ " is out of range") none) :
      ListingDecision w [] (.error f)
  | uncounted {d : Deadline} {calls : List Exchange} {e : StoreError} {f : Failure}
      (counted : Step.count.Ends none d calls (.error e)) (told : Step.count.Failed e f) :
      ListingDecision w calls (.error f)
  | negative {d : Deadline} {calls : List Exchange} {n : Int64} {f : Failure}
      (counted : Step.count.Ends none d calls (.ok n)) (below : n.toInt < 0)
      (told : f.Tells .internal
        ("store reported a negative count " ++ Text.integer n.toInt) none) :
      ListingDecision w calls (.error f)
  | unread {d : Deadline} {counts found : List Exchange} {n : Int64} {args : ListingArgs}
      {e : StoreError} {f : Failure} (counted : Step.count.Ends none d counts (.ok n))
      (above : 0 ≤ n.toInt) (bound : w.args = .ok args)
      (read : (Step.page args).Ends none d found (.error e)) (told : (Step.page args).Failed e f) :
      ListingDecision w (counts ++ found) (.error f)
  | unprobed {d : Deadline} {counts found probed : List Exchange} {n : Int64} {args : ListingArgs}
      {accounts : List Account} {e : StoreError} {f : Failure}
      (counted : Step.count.Ends none d counts (.ok n)) (above : 0 ≤ n.toInt)
      (bound : w.args = .ok args) (read : (Step.page args).Ends none d found (.ok accounts))
      (more : (Step.probe args).Ends none d probed (.error e))
      (told : (Step.probe args).Failed e f) :
      ListingDecision w (counts ++ found ++ probed) (.error f)
  | listed {d : Deadline} {counts found probed : List Exchange} {n : Int64} {args : ListingArgs}
      {accounts : List Account} {hasNext : Bool} (counted : Step.count.Ends none d counts (.ok n))
      (above : 0 ≤ n.toInt) (bound : w.args = .ok args)
      (read : (Step.page args).Ends none d found (.ok accounts))
      (more : (Step.probe args).Ends none d probed (.ok hasNext)) :
      ListingDecision w (counts ++ found ++ probed) (.ok ⟨w, n.toInt.toNat, hasNext, accounts⟩)

theorem positionValue_tells {n : Nat} {f : Failure} (h : positionValue n = .error f) :
    Text.maxSigned64 < n ∧ f.Tells .invalidRequest
      ("pagination value " ++ Text.natural n ++ " is out of range") none := by
  have hword : Text.isBlank "pagination value " = false := by decide
  unfold positionValue at h
  split_ifs at h with hle
  cases h
  refine ⟨by omega, Failure.make_tells .invalidRequest ?_⟩
  simp only [Text.isBlank_append, hword, Bool.false_and]

theorem positionValue_ok {n : Nat} {value : SqlValue} (h : positionValue n = .ok value) :
    ¬ Text.maxSigned64 < n := by
  unfold positionValue at h
  split_ifs at h with hle
  omega

/-- The first position that cannot be bound decides. -/
theorem Window.args_tells {w : Window} {f : Failure} (h : w.args = .error f) :
    ∃ n, [w.offset, w.limit, w.nextOffset].find? (Text.maxSigned64 < ·) = some n ∧
      f.Tells .invalidRequest
        ("pagination value " ++ Text.natural n ++ " is out of range") none := by
  unfold args at h
  cases hoffset : positionValue w.offset with
  | error g =>
    rw [hoffset] at h
    cases h
    obtain ⟨hlt, told⟩ := positionValue_tells hoffset
    exact ⟨w.offset, by simp [hlt], told⟩
  | ok offset =>
    have hoffset' := positionValue_ok hoffset
    cases hlimit : positionValue w.limit with
    | error g =>
      rw [hoffset, hlimit] at h
      cases h
      obtain ⟨hlt, told⟩ := positionValue_tells hlimit
      exact ⟨w.limit, by simp [hoffset', hlt], told⟩
    | ok limit =>
      have hlimit' := positionValue_ok hlimit
      cases hnext : positionValue w.nextOffset with
      | error g =>
        rw [hoffset, hlimit, hnext] at h
        cases h
        obtain ⟨hlt, told⟩ := positionValue_tells hnext
        exact ⟨w.nextOffset, by simp [hoffset', hlimit', hlt], told⟩
      | ok next =>
        rw [hoffset, hlimit, hnext] at h
        cases h

theorem countValue_tells {n : Int64} {f : Failure} (h : countValue n = .error f) :
    n.toInt < 0 ∧
      f.Tells .internal ("store reported a negative count " ++ Text.integer n.toInt) none := by
  have hword : Text.isBlank "store reported a negative count " = false := by decide
  unfold countValue at h
  split_ifs at h with hneg
  cases h
  refine ⟨hneg, Failure.make_tells .internal ?_⟩
  simp only [Text.isBlank_append, hword, Bool.false_and]

theorem countValue_ok {n : Int64} {total : Nat} (h : countValue n = .ok total) :
    0 ≤ n.toInt ∧ n.toInt.toNat = total := by
  unfold countValue at h
  split_ifs at h with hneg
  cases h
  exact ⟨by omega, rfl⟩

section Deciding

variable {database user : String}

/-- On every branch a listing is decided as in `ListingDecision`. -/
theorem listAccounts_decides (w : Window) :
    (listAccounts (.direct database user) w).Keeps conversation (ListingDecision w) [] := by
  simp only [listAccounts, Program.now, Program.ask, Program.bind_eq, Program.pure_eq_done,
    Program.perform_bind, Program.done_bind]
  refine ⟨trivial, fun now _ => ?_⟩
  cases bound : w.args with
  | error f =>
    obtain ⟨n, first, told⟩ := Window.args_tells bound
    exact .unrepresentable first told
  | ok args =>
    dsimp only
    rw [Program.keeps_bind]
    refine Store.keeps_once (w := .row []) fun counts reply use => ?_
    have counted : Step.count.Ends none _ counts (firstColumn 0 (·.integer 0) reply) :=
      Step.ofRow_ends use
    rcases hcount : firstColumn 0 (·.integer 0) reply with e | n <;> rw [hcount] at counted
    · exact .uncounted counted (Step.count.storeFailure_failed e)
    · dsimp only
      rcases htotal : countValue n with f | total
      · obtain ⟨below, told⟩ := countValue_tells htotal
        exact .negative counted below told
      · obtain ⟨above, rfl⟩ := countValue_ok htotal
        dsimp only
        rw [Program.keeps_bind]
        refine Store.keeps_once (w := .rows _) fun found reply use => ?_
        have read : (Step.page args).Ends none _ found (decoding accountsOfRows reply) :=
          ⟨reply, use, rfl⟩
        rcases hfound : decoding accountsOfRows reply with e | accounts <;> rw [hfound] at read
        · exact .unread counted above bound read ((Step.page args).storeFailure_failed e)
        · dsimp only
          rw [Program.keeps_bind]
          refine Store.keeps_once (w := .row _) fun probed reply use => ?_
          have more : (Step.probe args).Ends none _ probed
              (firstColumn false (·.boolean 0) reply) :=
            Step.ofRow_ends use
          rcases hmore : firstColumn false (·.boolean 0) reply with e | hasNext <;>
            rw [hmore] at more
          · exact .unprobed counted above bound read more ((Step.probe args).storeFailure_failed e)
          · exact .listed counted above bound read more

end Deciding

/-! ## Searches -/

/-- The calls of a search, and what comes of it. The row is read after the statement was closed. -/
inductive SearchDecision (id : Id) : List Exchange → Except Failure Account → Prop
  | unsought {d : Deadline} {calls : List Exchange} {e : StoreError} {f : Failure}
      (sought : (Step.search id).Ends none d calls (.error e))
      (told : (Step.search id).Failed e f) :
      SearchDecision id calls (.error f)
  | missing {d : Deadline} {calls : List Exchange} {f : Failure}
      (sought : (Step.search id).Ends none d calls (.ok none))
      (told : f.Tells .notFound "user account does not exist" none) :
      SearchDecision id calls (.error f)
  | unreadable {d : Deadline} {calls : List Exchange} {row : Row} {e : StoreError} {f : Failure}
      (sought : (Step.search id).Ends none d calls (.ok (some row)))
      (read : Account.ofRow row = .error e) (told : StoreFailed "decode user account" e f) :
      SearchDecision id calls (.error f)
  | found {d : Deadline} {calls : List Exchange} {row : Row} {a : Account}
      (sought : (Step.search id).Ends none d calls (.ok (some row)))
      (read : Account.ofRow row = .ok a) :
      SearchDecision id calls (.ok a)

/-! ## Creations -/

/-- The calls by which the rows of an account are added within a transaction, and what comes of it.
The account that results has an identifier and a time of creation for itself and for its user. -/
inductive InsertionDecision (account : Account) (d : Deadline) (tx : Transaction) :
    List Exchange → Except Failure Account → Prop
  | unchecked {calls : List Exchange} {e : StoreError} {f : Failure}
      (checked : (Step.checkUsername account.username).Ends (some tx) d calls (.error e))
      (told : (Step.checkUsername account.username).Failed e f) :
      InsertionDecision account d tx calls (.error f)
  | taken {calls : List Exchange} {f : Failure}
      (checked : (Step.checkUsername account.username).Ends (some tx) d calls (.ok true))
      (told : TellsTaken account.username f) :
      InsertionDecision account d tx calls (.error f)
  | userRefused {check addUser : List Exchange} {userId : Id} {moment : Timestamp} {e : StoreError}
      {f : Failure}
      (checked : (Step.checkUsername account.username).Ends (some tx) d check (.ok false))
      (userAdded : (Step.insertUser (account.user.assign userId moment)).Ends (some tx) d addUser
        (.error e))
      (told : (Step.insertUser (account.user.assign userId moment)).Failed e f) :
      InsertionDecision account d tx (check ++ addUser) (.error f)
  | accountRefused {check addUser addAccount : List Exchange} {userId id : Id}
      {userMoment moment : Timestamp} {users : Nat} {e : StoreError} {f : Failure}
      (checked : (Step.checkUsername account.username).Ends (some tx) d check (.ok false))
      (userAdded : (Step.insertUser (account.user.assign userId userMoment)).Ends (some tx) d
        addUser (.ok users))
      (accountAdded : (Step.insertAccount ((account.assignUser userId userMoment).assign id
        moment)).Ends (some tx) d addAccount (.error e))
      (told : (Step.insertAccount ((account.assignUser userId userMoment).assign id
        moment)).Failed e f) :
      InsertionDecision account d tx (check ++ addUser ++ addAccount) (.error f)
  | inserted {check addUser addAccount : List Exchange} {userId id : Id}
      {userMoment moment : Timestamp} {users accounts : Nat}
      (checked : (Step.checkUsername account.username).Ends (some tx) d check (.ok false))
      (userAdded : (Step.insertUser (account.user.assign userId userMoment)).Ends (some tx) d
        addUser (.ok users))
      (accountAdded : (Step.insertAccount ((account.assignUser userId userMoment).assign id
        moment)).Ends (some tx) d addAccount (.ok accounts)) :
      InsertionDecision account d tx (check ++ addUser ++ addAccount)
        (.ok ((account.assignUser userId userMoment).assign id moment))

/-- The calls of a creation, and what comes of it. A rollback that fails takes the place of what it
was made for, and one that succeeds leaves it as it is. -/
inductive CreationDecision (account : Account) : List Exchange → Except Failure Account → Prop
  | notBegun {d : Deadline} {e : StoreError} {f : Failure}
      (told : StoreFailed "begin transaction" e f) :
      CreationDecision account [⟨.begin d creationOptions, .error e⟩] (.error f)
  | rolledBack {d : Deadline} {tx : Transaction} {calls : List Exchange} {cause : Failure}
      (insertion : InsertionDecision account d tx calls (.error cause)) :
      CreationDecision account
        (⟨.begin d creationOptions, .ok tx⟩ :: calls ++ [⟨.rollback tx, .ok ()⟩]) (.error cause)
  | notRolledBack {d : Deadline} {tx : Transaction} {calls : List Exchange} {cause f : Failure}
      {e : StoreError} (insertion : InsertionDecision account d tx calls (.error cause))
      (told : TellsNotRolledBack cause e f) :
      CreationDecision account
        (⟨.begin d creationOptions, .ok tx⟩ :: calls ++ [⟨.rollback tx, .error e⟩]) (.error f)
  | notCommitted {d : Deadline} {tx : Transaction} {calls : List Exchange} {a : Account}
      {e : StoreError} {f : Failure} (insertion : InsertionDecision account d tx calls (.ok a))
      (told : StoreFailed "commit user account" e f) :
      CreationDecision account
        (⟨.begin d creationOptions, .ok tx⟩ :: calls ++ [⟨.commit tx, .error e⟩]) (.error f)
  | created {d : Deadline} {tx : Transaction} {calls : List Exchange} {a : Account}
      (insertion : InsertionDecision account d tx calls (.ok a)) :
      CreationDecision account
        (⟨.begin d creationOptions, .ok tx⟩ :: calls ++ [⟨.commit tx, .ok ()⟩]) (.ok a)

section Deciding

variable {database user : String}

/-- On every branch a search is decided as in `SearchDecision`. -/
theorem findAccount_decides (id : Id) :
    (findAccount (.direct database user) id).Keeps conversation (SearchDecision id) [] := by
  simp only [findAccount, Program.now, Program.ask, Program.bind_eq, Program.pure_eq_done,
    Program.perform_bind, Program.done_bind]
  refine ⟨trivial, fun now _ => ?_⟩
  rw [Program.keeps_bind]
  refine Store.keeps_once (w := .row _) fun calls reply use => ?_
  have sought : (Step.search id).Ends none _ calls reply := ⟨reply, use, by cases reply <;> rfl⟩
  rcases reply with e | (_ | row)
  · exact .unsought sought ((Step.search id).storeFailure_failed e)
  · exact .missing sought accountMissing_tells
  · dsimp only
    cases read : Account.ofRow row with
    | error e => exact .unreadable sought read (storeFailure_tells "decode user account" e)
    | ok a => exact .found sought read

variable {ids : Identifiers} {clock : Clock}

/-- On every branch the rows of an account are added, or not, as in `InsertionDecision`. -/
theorem insertRows_decides (hids : ids.Quiet) (hclock : clock.Quiet) (tx : Transaction)
    (d : Deadline) (account : Account) (h : List Exchange) :
    (insertRows (.direct database user) ids clock tx d account).Keeps conversation
      (fun h' outcome => ∃ calls, h' = h ++ calls ∧
        InsertionDecision account d tx calls (outcome.mapError Setback.cause)) h := by
  simp only [insertRows, Program.bind_eq, Program.pure_eq_done]
  rw [Program.keeps_bind]
  refine Store.keeps_once (w := .row [.text account.username]) fun check reply use => ?_
  have checked : (Step.checkUsername account.username).Ends (some tx) d check
      (firstColumn false (·.boolean 0) reply) :=
    Step.ofRow_ends use
  rcases hcheck : firstColumn false (·.boolean 0) reply with e | (_ | _) <;> rw [hcheck] at checked
  · exact ⟨_, rfl, .unchecked checked (Step.storeFailure_failed _ e)⟩
  · refine hids.keeps_bind fun userId => (hclock .universal).keeps_bind fun userMoment => ?_
    rw [Program.keeps_bind]
    refine Store.keeps_once (w := .exec _) fun addUser users use => ?_
    have userAdded : (Step.insertUser (account.user.assign userId userMoment)).Ends (some tx) d
        addUser users :=
      ⟨users, use, by cases users <;> rfl⟩
    rcases users with e | users
    · exact ⟨_, List.append_assoc .., .userRefused checked userAdded (Step.storeFailure_failed _ e)⟩
    · refine hids.keeps_bind fun id => (hclock .universal).keeps_bind fun moment => ?_
      rw [Program.keeps_bind]
      refine Store.keeps_once (w := .exec _) fun addAccount accounts use => ?_
      have accountAdded : (Step.insertAccount ((account.assignUser userId userMoment).assign id
          moment)).Ends (some tx) d addAccount accounts :=
        ⟨accounts, use, by cases accounts <;> rfl⟩
      have hcalls :
          h ++ check ++ addUser ++ addAccount = h ++ (check ++ addUser ++ addAccount) := by
        simp only [List.append_assoc]
      rcases accounts with e | accounts
      · exact ⟨_, hcalls, .accountRefused checked userAdded accountAdded
          (Step.storeFailure_failed _ e)⟩
      · exact ⟨_, hcalls, .inserted checked userAdded accountAdded⟩
  · exact ⟨_, rfl, .taken checked (usernameTaken_tells account.username)⟩

/-- On every branch a creation is decided as in `CreationDecision`. -/
theorem createAccount_decides (hids : ids.Quiet) (hclock : clock.Quiet) (account : Account) :
    (createAccount (.direct database user) ids clock account).Keeps conversation
      (CreationDecision account) [] := by
  simp only [createAccount, Program.now, Store.begin, Store.direct, Store.commit, abandon,
    Store.rollback, Program.call, Program.report, Program.ask, Program.bind_eq,
    Program.pure_eq_done, Program.perform_bind, Program.done_bind, Program.keeps_perform]
  refine ⟨trivial, fun now _ => ⟨trivial, fun begun _ => ?_⟩⟩
  cases begun with
  | error e => exact ⟨trivial, fun _ _ => .notBegun (storeFailure_tells "begin transaction" e)⟩
  | ok tx =>
    rw [Program.keeps_bind]
    refine (insertRows_decides hids hclock tx _ account _).mono fun h outcome => ?_
    rintro ⟨calls, rfl, insertion⟩
    cases outcome with
    | error setback =>
      refine ⟨trivial, fun answer _ => ?_⟩
      cases answer with
      | error e =>
        have told := rollbackFailure_tells setback.cause e
        exact ⟨trivial, fun _ _ => .notRolledBack insertion told⟩
      | ok _ => exact ⟨trivial, fun _ _ => .rolledBack insertion⟩
    | ok a =>
      refine ⟨trivial, fun answer _ => ?_⟩
      cases answer with
      | error e => exact .notCommitted insertion (storeFailure_tells "commit user account" e)
      | ok _ => exact ⟨trivial, fun _ _ => .created insertion⟩

end Deciding

/-! ## Services -/

/-- Whatever the store answers, and whatever lies between it and the service, the first step that
fails decides the outcome of an operation: of a creation as in `CreationDecision`, of a listing as
in `ListingDecision`, and of a search as in `SearchDecision`. -/
theorem Service.stacked_decides {σ : Type} (m : Machine σ) (s : σ) {layers : List Layer}
    {reporters : List Clock} {ids : Identifiers} {clock : Clock}
    (hlayers : ∀ layer ∈ layers, layer.Quiet) (hreporters : ∀ reporter ∈ reporters, reporter.Quiet)
    (hids : ids.Quiet) (hclock : clock.Quiet) (database user : String) :
    let service := stacked layers reporters database user ids clock
    (∀ account, let creation := service.create account
      CreationDecision account (creation.exchanges m s) (creation.run m s).1) ∧
    (∀ window, let listing := service.list window
      ListingDecision window (listing.exchanges m s) (listing.run m s).1) ∧
    (∀ id, let search := service.find id
      SearchDecision id (search.exchanges m s) (search.run m s).1) := by
  intro service
  have hservice : Decorates (.ofStore (.direct database user) ids clock) service :=
    stacked_decorates hlayers hreporters hids hclock database user
  refine ⟨fun account => ?_, fun window => ?_, fun id => ?_⟩
  · have hkeeps := (hservice.create account).keeps_asides conversation_ignoresAsides
      (createAccount_decides hids hclock account)
    exact Program.exchanges_of_keeps hkeeps m s
  · have hkeeps := (hservice.list window).keeps_asides conversation_ignoresAsides
      (listAccounts_decides window)
    exact Program.exchanges_of_keeps hkeeps m s
  · have hkeeps := (hservice.find id).keeps_asides conversation_ignoresAsides
      (findAccount_decides id)
    exact Program.exchanges_of_keeps hkeeps m s

/-- A store that can neither add a user nor close a statement nor roll back. -/
def failingStore : Memory :=
  ((Memory.empty.respond Statements.insertUser (.fail (.query "disk full"))).fail .close
    (.connection "close lost")).fail .rollback (.rollback "link lost")

/-- A creation whose first statement cannot be closed, and which cannot be rolled back either. -/
theorem Service.stacked_decides_of_failingStore :
    let layers := [Layer.metered (.kept 0), .logged .wall]
    let service := stacked layers [.wall] "accounts" "svc" .fresh .wall
    let creation := service.create (.new "jdoe" (.new "John" "Doe"))
    let world := World.start failingStore ⟨0, 0, 0⟩ "id"
    let outcome := (creation.run (World.machine .memory) world).1
    (∀ layer ∈ layers, layer.Quiet) ∧ (∀ reporter ∈ [Clock.wall], reporter.Quiet) ∧
      Identifiers.fresh.Quiet ∧ Clock.wall.Quiet ∧
      CreationDecision (.new "jdoe" (.new "John" "Doe"))
        (creation.exchanges (World.machine .memory) world) outcome ∧
      outcome.mapError (·.message) =
        .error "failed to roll back user account creation: rollback failed: link lost" := by
  intro layers service creation world outcome
  have hlayers : ∀ layer ∈ layers, layer.Quiet :=
    List.forall_mem_cons.mpr ⟨Layer.metered_quiet _,
      List.forall_mem_singleton.mpr (Layer.logged_quiet Clock.wall_quiet)⟩
  have hreporters : ∀ reporter ∈ [Clock.wall], reporter.Quiet :=
    List.forall_mem_singleton.mpr Clock.wall_quiet
  have hdecided := (stacked_decides (World.machine .memory) world hlayers hreporters
    Identifiers.fresh_quiet Clock.wall_quiet "accounts" "svc").1 (.new "jdoe" (.new "John" "Doe"))
  exact ⟨hlayers, hreporters, Identifiers.fresh_quiet, Clock.wall_quiet, hdecided,
    by decide +kernel⟩

/-- A store that counts fewer accounts than none makes a listing fail as something internal, but not
with a failure of the store. -/
theorem listAccounts_of_negative_count :
    let store := Memory.empty.respond Statements.countAccounts (.rows [⟨[.int (-1)]⟩])
    let world := World.start store ⟨0, 0, 0⟩ "id"
    let outcome := ((listAccounts (.direct "accounts" "svc") .default).run
      (World.machine .memory) world).1
    ∃ f, outcome = .error f ∧ f.message = "store reported a negative count -1" ∧
      f.code = .internal ∧ ∀ action e, ¬ StoreFailed action e f := by
  intro store world outcome
  have hparts : outcome.mapError (fun f => (f.code, f.message)) =
      .error (.internal, "store reported a negative count -1") := by
    decide +kernel
  cases houtcome : outcome with
  | ok listing =>
    rw [houtcome] at hparts
    cases hparts
  | error f =>
    rw [houtcome] at hparts
    obtain ⟨hcode, hmessage⟩ := Prod.mk.inj (Except.error.inj hparts)
    refine ⟨f, rfl, hmessage, hcode, fun action e told => ?_⟩
    -- Failures of the store are told by other words from the first letter on.
    have hchars := congrArg String.toList (hmessage.symm.trans told.message_eq)
    simp at hchars

end UserAccounts
