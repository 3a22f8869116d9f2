import UserAccounts.Proofs.Account.Columns
import UserAccounts.Proofs.Account.Decision
import UserAccounts.Proofs.Account.Listing

/-!
# What is created is what is read

An account that was created is read back from the records that its creation added, with its times in
whole milliseconds (`Service.stacked_reads_back`). The creation runs two statements for their effect
(`CreationDecision.executions_of_created`). The values bound to them make up the two records, and
their row in the join of the tables is what a search or a listing reads: on a store that answers
with it, a search finds the account (`yields_findAccount`), and so does a listing.
-/

namespace UserAccounts

/-! ## What was run for its effect -/

/-- A statement that was prepared and then run for its effect, both with success: its text, and the
values bound to it. -/
def execution? : Exchange → Exchange → Option (String × List SqlValue)
  | ⟨.prepare within _ query, .ok p⟩, ⟨.exec s _ args, .ok _⟩ =>
    if s = p.statement within then some (query, args) else none
  | _, _ => none

/-- The statements that were run for their effect, in order. -/
def executions : List Exchange → List (String × List SqlValue)
  | [] => []
  | [_] => []
  | x :: y :: rest => (execution? x y).toList ++ executions (y :: rest)

section Runs

variable {within : Option Transaction} {d : Deadline} {calls : List Exchange} {β : Type} {b : β}

/-- The calls of a step that ends well. -/
theorem Step.Ends.calls_of_ok {step : Step β} (h : step.Ends within d calls (.ok b)) :
    ∃ p reply, step.read reply = .ok b ∧
      calls = [⟨.prepare within d step.query, .ok p⟩,
        step.work.exchange d (p.statement within) (.ok reply),
        ⟨.close (p.statement within), .ok ()⟩] := by
  obtain ⟨outcome, use, hread⟩ := h
  cases use with
  | unprepared e => cases hread
  | failed p e closed => cases hread
  | unclosed p reply e => cases hread
  | completed p reply => exact ⟨p, reply, hread, rfl⟩

/-- A creation that succeeds adds the user of the account, and then the account. -/
theorem CreationDecision.executions_of_created {account a : Account}
    (h : CreationDecision account calls (.ok a)) :
    executions calls = [(Statements.insertUser, a.user.insertArgs),
      (Statements.insertAccount, a.insertArgs)] := by
  cases h with
  | created insertion =>
    cases insertion with
    | inserted checked userAdded accountAdded =>
      obtain ⟨p₁, found, -, rfl⟩ := checked.calls_of_ok
      obtain ⟨p₂, users, -, rfl⟩ := userAdded.calls_of_ok
      obtain ⟨p₃, accounts, -, rfl⟩ := accountAdded.calls_of_ok
      simp [executions, execution?, Work.exchange, Step.checkUsername, Step.ofRow, Step.insertUser,
        Step.insertAccount, Account.assign, Account.assignUser]

end Runs

/-! ## Reading it back -/

/-- The statement of a search is answered in time, with this row for this identifier. Nothing is
said about any other effect. -/
def SearchAnswers (id : Id) (row : Row) : (e : Effect) → e.Answer → Prop
  | .store (.prepare none _ query), answer =>
    query = Statements.findAccountById → ∃ key, answer = .ok ⟨key, query⟩
  | .store (.queryRow s _ args), answer =>
    s.query = Statements.findAccountById → args = [.text id.text] → answer = .ok (some row)
  | .store (.close s), answer => s.query = Statements.findAccountById → answer = .ok ()
  | _, _ => True

/-- From a store that answers a search with a row, the search gets the account in that row. -/
theorem yields_findAccount {database user : String} {id : Id} {row : Row} {b : Account}
    (holds : Account.ofRow row = .ok b) :
    Yields (SearchAnswers id row) (findAccount (Store.direct database user) id) (.ok b) := by
  have hfound (d : Deadline) : Yields (SearchAnswers id row)
      ((Store.direct database user).rowOnce none d Statements.findAccountById [.text id.text])
      (.ok (some row)) :=
    yields_once (w := .row _) (fun _ h => h rfl) (fun _ _ hs h => h hs rfl) fun _ _ hs h => h hs
  unfold findAccount
  refine ⟨trivial, fun now _ => Yields.keeps ?_⟩
  refine (hfound _).bind ?_
  dsimp only
  rw [holds]
  exact ⟨rfl⟩

/-- What a program yields on some answers, it yields with asides put in between. -/
theorem Annotates.yields {expected : (e : Effect) → e.Answer → Prop} {α : Type} {p q : Program α}
    {a : α} (h : Annotates Aside p q) (hid : ∀ id : RequestId, expected .currentRequest (some id))
    (hp : Yields expected p a) : Yields expected q a :=
  ⟨h.keeps_asides ⟨fun _ _ _ => trivial, fun _ _ _ _ => rfl, hid⟩ hp.keeps⟩

namespace Service

/-- Whichever account is looked for, a store that answers with this row lets the search find this
account. -/
def Finds (service : Service) (row : Row) (b : Account) : Prop :=
  ∀ {σ : Type} (m : Machine σ) (s : σ) (id : Id),
    (∀ s e, SearchAnswers id row e (m.step s e).1) → ((service.find id).run m s).1 = .ok b

/-- Whenever the store holds this row among others that hold accounts, every window is listed and
gets its part of the accounts with this one at the place of the row. -/
def Lists (service : Service) (row : Row) (b : Account) : Prop :=
  ∀ {σ : Type} (m : Machine σ) (s : σ) (w : Window) (before after : List Row)
    (earlier later : List Account),
    List.Forall₂ (fun row a => Account.ofRow row = .ok a) before earlier →
    List.Forall₂ (fun row a => Account.ofRow row = .ok a) after later →
    (earlier ++ b :: later).length < 2 ^ 63 → w.offset + w.limit < 2 ^ 63 →
    (∀ s e, ListingAnswers (before ++ row :: after) e (m.step s e).1) →
      ((service.list w).run m s).1 = .ok (listingOf (earlier ++ b :: later) w)

section Stacked

variable {layers : List Layer} {reporters : List Clock} {ids : Identifiers} {clock : Clock}
  {row : Row} {b : Account}

theorem stacked_finds (hlayers : ∀ layer ∈ layers, layer.Quiet)
    (hreporters : ∀ reporter ∈ reporters, reporter.Quiet) (hids : ids.Quiet)
    (hclock : clock.Quiet) (database user : String) (holds : Account.ofRow row = .ok b) :
    (stacked layers reporters database user ids clock).Finds row b := by
  intro σ m s id hm
  have hservice := stacked_decorates hlayers hreporters hids hclock database user
  exact ((hservice.find id).yields (fun _ => trivial) (yields_findAccount holds)).run hm s

theorem stacked_lists (hlayers : ∀ layer ∈ layers, layer.Quiet)
    (hreporters : ∀ reporter ∈ reporters, reporter.Quiet) (hids : ids.Quiet)
    (hclock : clock.Quiet) (database user : String) (holds : Account.ofRow row = .ok b) :
    (stacked layers reporters database user ids clock).Lists row b := by
  intro σ m s w before after earlier later hbefore hafter hcount hw hm
  have hservice := stacked_decorates hlayers hreporters hids hclock database user
  have hrows : List.Forall₂ (fun row a => Account.ofRow row = .ok a) (before ++ row :: after)
      (earlier ++ b :: later) :=
    List.rel_append hbefore (.cons holds hafter)
  have hyields : Yields _ (listAccounts (.direct database user) w) _ :=
    yields_listAccounts hrows hcount hw
  exact ((hservice.list w).yields (fun _ => trivial) hyields).run hm s

/-- An account that was created is read back with its times in whole milliseconds, so that
responses show no difference. For this, the values bound to the two statements that the creation
runs for their effect make up two records; the row `r` is what their join shows: identifier,
username and time of the account, then identifier, first and last name and time of the user. Both
queries show this row, it holds the account, and every search and every listing that the store
answers with it gets the account. Other rows hold no account exactly if one of the seven columns is
missing, of another type, or a time outside of the years that are covered. -/
theorem stacked_reads_back (hlayers : ∀ layer ∈ layers, layer.Quiet)
    (hreporters : ∀ reporter ∈ reporters, reporter.Quiet) (hids : ids.Quiet)
    (hclock : clock.Quiet) (database user : String) :
    let service := stacked layers reporters database user ids clock
    (∀ {σ : Type} (m : Machine σ) (s : σ) (account a : Account),
      let creation := service.create account
      (creation.run m s).1 = .ok a →
      ∃ (userArgs accountArgs : List SqlValue) (userRecord accountRecord : Record) (r : Row)
        (b : Account),
        executions (creation.exchanges m s) =
          [(Statements.insertUser, userArgs), (Statements.insertAccount, accountArgs)] ∧
        Adds Statements.insertUser userArgs "users" userRecord ∧
        Adds Statements.insertAccount accountArgs "user_accounts" accountRecord ∧
        r.columns.map some =
          [accountRecord.lookup "user_account_id", accountRecord.lookup "username",
            accountRecord.lookup "created_at", userRecord.lookup "user_id",
            userRecord.lookup "first_name", userRecord.lookup "last_name",
            userRecord.lookup "created_at"] ∧
        ShowsRow Statements.findAccountById accountRecord userRecord r ∧
        ShowsRow Statements.findAccounts accountRecord userRecord r ∧
        Account.ofRow r = .ok b ∧ b = a.floored ∧
        AccountView.ofAccount b = AccountView.ofAccount a ∧ service.Finds r b ∧
        service.Lists r b) ∧
    ∀ r, (∃ e, Account.ofRow r = .error e) ↔ ∃ index < 7, r.Misfit index := by
  intro service
  refine ⟨?_, Account.ofRow_error_iff⟩
  intro σ m s account a creation hcreated
  have hservice : Decorates (.ofStore (.direct database user) ids clock) service :=
    stacked_decorates hlayers hreporters hids hclock database user
  have hkeeps := (hservice.create account).keeps_asides conversation_ignoresAsides
    (createAccount_decides hids hclock account)
  have hdecided : CreationDecision account (creation.exchanges m s) (.ok a) :=
    hcreated ▸ Program.exchanges_of_keeps hkeeps m s
  have holds : Account.ofRow a.row = .ok a.floored := a.ofRow_row
  exact ⟨a.user.insertArgs, a.insertArgs, a.user.record, a.record, a.row, a.floored,
    hdecided.executions_of_created, insertUser_adds a.user, insertAccount_adds a, rfl,
    findAccountById_shows a, findAccounts_shows a, holds, rfl, AccountView.ofAccount_floored a,
    stacked_finds hlayers hreporters hids hclock database user holds,
    stacked_lists hlayers hreporters hids hclock database user holds⟩

end Stacked

/-- The store in memory, at a moment one nanosecond before 1970 began. -/
def beforeEpoch : Machine (World Memory) where
  step w e :=
    match e with
    | .clock _ => (⟨-1, by decide⟩, w)
    | e => w.step .memory e

/-- A machine that remembers nothing, and whose store finds this row whatever is looked for. -/
def finder (row : Row) : Machine Unit where
  step s e :=
    match e with
    | .store (.queryRow _ _ _) => (.ok (some row), s)
    | e => (shelf []).step s e

theorem finder_answers (id : Id) (row : Row) (s : Unit) (e : Effect) :
    SearchAnswers id row e ((finder row).step s e).1 := by
  cases e with
  | store call =>
    cases call with
    | prepare within deadline query =>
      cases within with
      | none => exact fun _ => ⟨0, rfl⟩
      | some tx => trivial
    | queryRow statement deadline args => exact fun _ _ => rfl
    | close statement => exact fun _ => rfl
    | _ => trivial
  | _ => trivial

/-- An account created just before 1970 is read back as one created a millisecond before, by a
search and by a listing. -/
theorem stacked_reads_back_beforeEpoch :
    let service := stacked [.metered (.kept 0)] [.wall] "accounts" "svc" .fresh .wall
    let creation := service.create (.new "jdoe" (.new "John" "O'Doe \"J\""))
    let world := World.start Memory.empty ⟨0, 0, 0⟩ "id"
    let window := Window.ofRequest none none
    (∀ layer ∈ [Layer.metered (.kept 0)], layer.Quiet) ∧
      (∀ reporter ∈ [Clock.wall], reporter.Quiet) ∧ Identifiers.fresh.Quiet ∧ Clock.wall.Quiet ∧
      ∃ a r b, (creation.run beforeEpoch world).1 = .ok a ∧ a.createdAt.nanos = -1 ∧
        Account.ofRow r = .ok b ∧ b.createdAt.nanos = -1000000 ∧ b.user.lastName = "O'Doe \"J\"" ∧
        AccountView.ofAccount b = AccountView.ofAccount a ∧ service.Finds r b ∧
        service.Lists r b ∧ ((service.find a.id).run (finder r) ()).1 = .ok b ∧
        ((service.list window).run (shelf [r]) ()).1 = .ok (listingOf [b] window) := by
  intro service creation world window
  have hlayers : ∀ layer ∈ [Layer.metered (.kept 0)], layer.Quiet :=
    List.forall_mem_singleton.mpr (Layer.metered_quiet _)
  have hreporters : ∀ reporter ∈ [Clock.wall], reporter.Quiet :=
    List.forall_mem_singleton.mpr Clock.wall_quiet
  have hcreated : ((creation.run beforeEpoch world).1.mapError Failure.message) =
      .ok ⟨⟨"id-2"⟩, "jdoe", ⟨⟨"id-1"⟩, "John", "O'Doe \"J\"", ⟨-1, by decide⟩⟩,
        ⟨-1, by decide⟩⟩ := by
    decide +kernel
  cases hrun : (creation.run beforeEpoch world).1 with
  | error f =>
    rw [hrun] at hcreated
    cases hcreated
  | ok a =>
    rw [hrun] at hcreated
    cases hcreated
    obtain ⟨-, -, -, -, r, b, -, -, -, -, -, -, holds, rfl, hview, hfinds, hlists⟩ :=
      (stacked_reads_back hlayers hreporters Identifiers.fresh_quiet Clock.wall_quiet "accounts"
        "svc").1 beforeEpoch world _ _ hrun
    have hfound := hfinds (finder r) () ⟨"id-2"⟩ (finder_answers _ r)
    have hlisted := hlists (shelf [r]) () window [] [] [] [] .nil .nil (by decide) (by decide)
      (shelf_answers [r])
    exact ⟨hlayers, hreporters, Identifiers.fresh_quiet, Clock.wall_quiet, _, r, _, rfl, rfl,
      holds, rfl, rfl, hview, hfinds, hlists, hfound, hlisted⟩

end Service

end UserAccounts
